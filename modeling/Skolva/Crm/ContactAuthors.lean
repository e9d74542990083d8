import Skolva.Audit.Accounts
import Skolva.Crm.ContactOwner

/-! # Who has written a contact

The transactions of the repository on `user_contact_points` and `audit_logs`. The clearing of
a primary contact is part of the transaction, and does not set `updated_by`.
-/

namespace Skolva.Crm

open Dbexec Effect Audit

/-- The table `user_contact_points`. -/
def contactTable : Authored ContactPoint where
  name := "user_contact_points"
  columns := [("updated_at", fun row => .timestamp row.updatedAt),
    ("deleted_at", fun row => instantJson row.deletedAt)]
  id := ContactPoint.id
  updatedBy := ContactPoint.updatedBy

theorem contactTable_audited : contactTable.table ∈ auditedTables := by decide

/-! ## The statements as writes -/

/-- What `ClearPrimaryContacts` writes. -/
def clearWrite (now : Nat) (userID : Uuid) (contactType : String) (excludeID : Uuid) :
    Sql.RowWrite ContactPoint :=
  .update (fun row => row.IsLivePrimary userID contactType ∧ row.id ≠ excludeID)
    (demote now userID contactType excludeID)

/-- What `UpdateContact` writes. -/
def updateWrite (now : Nat) (params : UpdateContactParams) : Sql.RowWrite ContactPoint :=
  .update (fun row => row.id = params.id ∧ row.deletedAt = none) (rewrite now params)

/-- What `SoftDeleteContact` writes. -/
def deleteWrite (now : Nat) (id : Uuid) (updatedBy : Option Uuid) : Sql.RowWrite ContactPoint :=
  .update (fun row => row.id = id ∧ row.deletedAt = none) (retire now id updatedBy)

/-! ## The repository -/

/-- A transaction on the table and the log. -/
abbrev AuditedTx := Dbexec.Tx (Db × List AuditLog)

/-- A statement in the session of a request. -/
def audited {α : Type} (actorID : Uuid) (now : Nat) (write : Sql.RowWrite ContactPoint)
    (body : Tx α) : AuditedTx α :=
  contactTable.statement (actorNull actorID) Db.users Db.contacts now write body

namespace Repository

def createAudited (moment : Moment) (actorID id : Uuid) (clearPrimary : Bool)
    (params : CreateContactParams) : AuditedTx Contact := do
  if clearPrimary then
    Tx.statement moment .clear
      (audited actorID moment.now
        (clearWrite moment.now params.userID params.contactType Uuid.nil)
        (clearPrimaryContacts moment.now params.userID params.contactType Uuid.nil))
  Tx.statement moment .write
    (audited actorID moment.now (.insert (Db.newContact moment.now id params))
      (createContactRow moment.now id params))

def updateAudited (moment : Moment) (actorID userID : Uuid) (contactType : String)
    (clearPrimary : Bool) (params : UpdateContactParams) : AuditedTx Contact := do
  if clearPrimary then
    Tx.statement moment .clear
      (audited actorID moment.now (clearWrite moment.now userID contactType params.id)
        (clearPrimaryContacts moment.now userID contactType params.id))
  Tx.statement moment .write
    (audited actorID moment.now (updateWrite moment.now params)
      (updateContactRow moment.now params))

def softDeleteAudited (moment : Moment) (actorID id : Uuid) (updatedBy : Option Uuid) :
    AuditedTx Unit :=
  Tx.statement moment .write
    (audited actorID moment.now (deleteWrite moment.now id updatedBy)
      (softDeleteContactRow moment.now id updatedBy))

end Repository

/-- The answer of the repository, with the log. -/
def serveAudited (moment : Moment) : (op : Op) → Db × List AuditLog → op.Resp × Db × List AuditLog
  | .getContact id, store =>
      (if moment.fails .read then .error .unavailable else store.1.getContact id, store)
  | .createContact actorID id clearPrimary params, store =>
      withActor moment (Repository.createAudited moment actorID id clearPrimary params) store
  | .updateContact actorID userID contactType clearPrimary params, store =>
      withActor moment
        (Repository.updateAudited moment actorID userID contactType clearPrimary params) store
  | .softDeleteContact actorID id updatedBy, store =>
      withActor moment (Repository.softDeleteAudited moment actorID id updatedBy) store

/-! ## What a transaction leaves -/

section Transactions

variable {now : Nat} {actorID : Uuid} {store : Db × List AuditLog}

theorem cleared_contacts (now : Nat) (userID : Uuid) (contactType : String) (excludeID : Uuid)
    (db : Db) : (db.edit (demote now userID contactType excludeID)).contacts =
      (clearWrite now userID contactType excludeID).after db.contacts :=
  (Sql.RowWrite.after_update_eq_map fun _ hrow => if_neg (of_decide_eq_false hrow)).symm

theorem nodup_cleared {db : Db} (hids : (db.contacts.map ContactPoint.id).Nodup) (now : Nat)
    (userID : Uuid) (contactType : String) (excludeID : Uuid) :
    ((db.edit (demote now userID contactType excludeID)).contacts.map ContactPoint.id).Nodup := by
  rw [Db.pkey_edit (demote_keeps now userID contactType excludeID).id]
  exact hids

theorem rewritten_contacts (now : Nat) (params : UpdateContactParams) (db : Db) :
    (db.edit (rewrite now params)).contacts = (updateWrite now params).after db.contacts :=
  (Sql.RowWrite.after_update_eq_map fun _ hrow => if_neg (of_decide_eq_false hrow)).symm

theorem retired_contacts (now : Nat) (id : Uuid) (updatedBy : Option Uuid) (db : Db) :
    (db.edit (retire now id updatedBy)).contacts =
      (deleteWrite now id updatedBy).after db.contacts :=
  (Sql.RowWrite.after_update_eq_map fun _ hrow => if_neg (of_decide_eq_false hrow)).symm

/-- A statement has done its write, and signed it. -/
abbrev Performs (actorID : Uuid) : Sql.RowWrite ContactPoint → Db → Db → Prop :=
  contactTable.Performs (actorNull actorID) Db.users Db.contacts

/-- What a transaction leaves of the table and the log. -/
abbrev Leads : Prop → Db × List AuditLog → Db × List AuditLog → Prop :=
  contactTable.Leads Db.users Db.contacts

variable {α : Type} {write : Sql.RowWrite ContactPoint} {body : Tx α}

/-- The rows that the clearing writes keep their authors. -/
theorem forall_cleared_iff (now : Nat) (userID : Uuid) (contactType : String) (excludeID : Uuid)
    (rows : List ContactPoint) (actor : Option Uuid) :
    (∀ row ∈ (clearWrite now userID contactType excludeID).written rows, row.updatedBy = actor) ↔
      ∀ row ∈ rows, row.IsLivePrimary userID contactType → row.id ≠ excludeID →
        row.updatedBy = actor := by
  simp only [clearWrite, Sql.RowWrite.written, List.forall_mem_map, List.mem_filter,
    decide_eq_true_eq, demote_updatedBy, and_imp]

/-- A transaction that clears first signs if the cleared contacts name its actor already. -/
theorem leads_clearedWrite (now : Nat) (actorID : Uuid) (write : Sql.RowWrite ContactPoint)
    (body : Tx α) (userID : Uuid) (contactType : String) (excludeID : Uuid)
    (hlawful : contactTable.Lawful store.1.contacts store.2)
    (hbody : ∀ out after, body (store.1.edit (demote now userID contactType excludeID)) =
        .ok (out, after) →
      Performs actorID write (store.1.edit (demote now userID contactType excludeID)) after ∧
        store.1.ActorKnown (actorNull actorID) ∧
        (clearWrite now userID contactType excludeID).written store.1.contacts ⊆ after.contacts) :
    let tx : AuditedTx α := do
      audited actorID now (clearWrite now userID contactType excludeID)
        (clearPrimaryContacts now userID contactType excludeID)
      audited actorID now write body
    Leads ((∃ out after, body (store.1.edit (demote now userID contactType excludeID)) =
        .ok (out, after)) →
      ∀ row ∈ store.1.contacts, row.IsLivePrimary userID contactType → row.id ≠ excludeID →
        row.updatedBy = actorNull actorID) store (committed tx store).2 := by
  have hleads := Authored.leads_statements now hlawful
    (show clearPrimaryContacts now userID contactType excludeID store.1 = .ok ((),
      store.1.edit (demote now userID contactType excludeID)) from rfl) rfl
    (cleared_contacts now userID contactType excludeID store.1) hbody
  refine hleads.iff ?_
  exact imp_congr_right fun _ => forall_cleared_iff now ..

end Transactions

/-! ## What a request leaves -/

/-- What `CreateContact` of the service passes to the repository. -/
def createParams (actorID userID : Uuid) (req : CreateContactRequest) : CreateContactParams where
  userID := userID
  contactType := req.contactType
  label := req.label
  value := req.value
  isPrimary := req.isPrimary
  isPreferred := req.isPreferred
  allowContact := boolOr req.allowContact true
  preferredTimeWindow := req.preferredTimeWindow
  note := req.note
  actor := actorNull actorID

/-- The database admits the new contact, once the primary ones are cleared. -/
structure Db.Creates (db : Db) (id actorID userID : Uuid) (req : CreateContactRequest) : Prop where
  contactType : req.contactType ∈ contactTypes
  fresh : id ∉ db.contacts.map ContactPoint.id
  cleared : ∀ row ∈ db.contacts, row.IsLivePrimary userID req.contactType → row.id ≠ Uuid.nil
  user : userID ∈ db.users
  actor : db.ActorKnown (actorNull actorID)

/-- A new primary contact signs if the ones it takes the place of name its actor already. -/
def Db.CreateSigns (db : Db) (id actorID userID : Uuid) (req : CreateContactRequest) : Prop :=
  req.isPrimary = true → db.Creates id actorID userID req →
    ∀ row ∈ db.contacts, row.IsLivePrimary userID req.contactType →
      row.updatedBy = actorNull actorID

/-- So does a contact that becomes primary. -/
def Db.UpdateSigns (db : Db) (actorID userID contactID : Uuid) (req : UpdateContactRequest) : Prop :=
  req.isPrimary = true → db.ActorKnown (actorNull actorID) →
    ∀ contact ∈ db.contacts, contact.id = contactID → contact.deletedAt = none →
      contact.userId = userID →
      ∀ row ∈ db.contacts, row.IsLivePrimary userID contact.contactType → row.id ≠ contactID →
        row.updatedBy = actorNull actorID

section Requests

variable {now : Nat} {actorID userID : Uuid} {store : Db × List AuditLog} {db after : Db}
  {out : Contact}

theorem performs_create {id : Uuid} {req : CreateContactRequest}
    (hids : (db.contacts.map ContactPoint.id).Nodup)
    (hrow : createContactRow now id (createParams actorID userID req) db = .ok (out, after)) :
    Performs actorID (.insert (Db.newContact now id (createParams actorID userID req))) db after := by
  obtain ⟨-, hkey, -, -, -, -, rfl⟩ := createContactRow_ok hrow
  refine ⟨rfl, rfl, Db.pkey_insert hids hkey, ?_⟩
  intro row hmem
  rw [List.mem_singleton.mp hmem]
  rfl

theorem performs_update {params : UpdateContactParams} (hids : (db.contacts.map ContactPoint.id).Nodup)
    (hactor : params.updatedBy = actorNull actorID)
    (hrow : updateContactRow now params db = .ok (out, after)) :
    Performs actorID (updateWrite now params) db after := by
  obtain ⟨-, -, -, -, -, -, -, rfl⟩ := updateContactRow_ok hrow
  refine ⟨rfl, rewritten_contacts now params db, (Db.pkey_edit rewrite_keeps.id).symm ▸ hids, ?_⟩
  intro row hmem
  obtain ⟨source, hsource, rfl⟩ := List.mem_map.mp hmem
  have hselected := of_decide_eq_true (List.mem_filter.mp hsource).2
  rw [rewrite, if_pos hselected]
  exact hactor

/-- The clearing empties the index, unless the excluded contact is in it. -/
theorem index_cleared_iff (now : Nat) (userID : Uuid) (contactType : String) (excludeID : Uuid) (db : Db) :
    (∀ row ∈ (db.edit (demote now userID contactType excludeID)).contacts,
      ¬row.IsLivePrimary userID contactType) ↔
    ∀ row ∈ db.contacts, row.IsLivePrimary userID contactType → row.id ≠ excludeID := by
  simp only [Db.edit, List.forall_mem_map]
  constructor
  · intro hindex row hrow hlive hid
    apply hindex row hrow
    rwa [demote, if_neg fun hcleared => hcleared.2 hid]
  · intro hcleared row hrow hlive
    exact hcleared row hrow (demote_live now userID contactType excludeID row _ _ hlive)
      (demote_excluded now userID contactType excludeID row hlive)

/-- The insertion goes through if and only if the database admits the contact. -/
theorem createContactRow_ok_iff {id : Uuid} {req : CreateContactRequest}
    (hprimary : req.isPrimary = true) :
    (∃ out after, createContactRow now id (createParams actorID userID req)
      (db.edit (demote now userID req.contactType Uuid.nil)) = .ok (out, after)) ↔
    db.Creates id actorID userID req := by
  have hids : (db.edit (demote now userID req.contactType Uuid.nil)).contacts.map ContactPoint.id =
      db.contacts.map ContactPoint.id :=
    Db.pkey_edit (demote_keeps now userID req.contactType Uuid.nil).id
  have hindex := index_cleared_iff now userID req.contactType Uuid.nil db
  constructor
  · rintro ⟨out, after, hrow⟩
    obtain ⟨htype, hkey, hfree, huser, hactor, -, -⟩ := createContactRow_ok hrow
    rw [hids] at hkey
    exact ⟨htype, hkey, hindex.mp (hfree hprimary), huser, hactor⟩
  · rintro ⟨htype, hfresh, hcleared, huser, hactor⟩
    let cleared := db.edit (demote now userID req.contactType Uuid.nil)
    let row := Db.newContact now id (createParams actorID userID req)
    have hrow : createContactRow now id (createParams actorID userID req) cleared =
        .ok (contactFrom row, cleared.insert row) := by
      unfold createContactRow
      split_ifs with hcheck hkey hfull hknown
      · rw [hids] at hkey
        exact absurd hkey hfresh
      · obtain ⟨-, other, hother, hlive⟩ := hfull
        exact absurd hlive (hindex.mpr hcleared other hother)
      · rfl
      · exact absurd ⟨huser, hactor⟩ hknown
      · exact absurd htype hcheck
    exact ⟨_, _, hrow⟩

theorem run_createContact_audited (now : Nat) (id actorID userID : Uuid)
    (req : CreateContactRequest) (store : Db × List AuditLog) :
    ((Service.createContact id actorID userID req).run serveAudited ⟨now, fun _ => false⟩
      store).2 =
      if req.contactType ∈ validContactTypes then
        (committed (Repository.createAudited ⟨now, fun _ => false⟩ actorID id req.isPrimary
          (createParams actorID userID req)) store).2
      else store := by
  by_cases htype : req.contactType ∈ validContactTypes
  · rw [if_pos htype]
    simp only [Service.createContact, htype, not_true_eq_false, if_false, Program.run_bind,
      Program.run_perform, serveAudited, withActor_eq_committed]
    generalize hparams : CreateContactParams.mk .. = passed
    obtain rfl : passed = createParams actorID userID req := hparams.symm
    generalize committed _ store = result
    rcases result with ⟨_ | _, _⟩ <;> rfl
  · rw [if_neg htype]
    simp only [Service.createContact, htype, not_false_eq_true, if_true]
    rfl

theorem leads_createContact (hlawful : contactTable.Lawful store.1.contacts store.2) (id : Uuid)
    (req : CreateContactRequest) :
    Leads (store.1.CreateSigns id actorID userID req) store
      ((Service.createContact id actorID userID req).run serveAudited ⟨now, fun _ => false⟩
        store).2 := by
  rw [run_createContact_audited]
  by_cases htype : req.contactType ∈ validContactTypes
  · rw [if_pos htype]
    let params := createParams actorID userID req
    cases hprimary : req.isPrimary with
    | false =>
        have hleads : Leads True store (committed (audited actorID now
            (.insert (Db.newContact now id params)) (createContactRow now id params)) store).2 :=
          Authored.leads_statement hlawful fun _ _ hrow => performs_create hlawful.ids hrow
        exact hleads.iff (by simp [Db.CreateSigns, hprimary])
    | true =>
        have hleads := leads_clearedWrite now actorID (.insert (Db.newContact now id params))
          (createContactRow now id params) userID req.contactType Uuid.nil hlawful ?_
        · refine hleads.iff ?_
          rw [createContactRow_ok_iff hprimary]
          constructor
          · exact fun hsigns _ hcreates row hrow hlive =>
              hsigns hcreates row hrow hlive (hcreates.cleared row hrow hlive)
          · exact fun hsigns hcreates row hrow hlive _ => hsigns hprimary hcreates row hrow hlive
        · intro out after hrow
          have hids := nodup_cleared hlawful.ids now userID req.contactType Uuid.nil
          obtain ⟨-, -, -, -, hactor, -, hafter⟩ := createContactRow_ok hrow
          refine ⟨performs_create hids hrow, hactor, ?_⟩
          subst hafter
          intro row hmem
          apply List.mem_append_left
          rw [cleared_contacts]
          exact (clearWrite now userID req.contactType Uuid.nil).written_subset hmem
  · rw [if_neg htype]
    refine ⟨rfl, hlawful.unchanged fun _ hcreates => ?_⟩
    exact absurd hcreates.contactType htype

/-- The reading of a contact leaves the table and the log. -/
theorem serveAudited_getContact (id : Uuid) :
    serveAudited ⟨now, fun _ => false⟩ (.getContact id) store =
      (store.1.getContact id, store) := rfl

/-- The live row with a key is the only row with that key. -/
theorem eq_of_findLive (hids : (db.contacts.map ContactPoint.id).Nodup) {id : Uuid}
    {row other : ContactPoint}
    (hfind : db.contacts.find? (fun row => row.id = id ∧ row.deletedAt = none) = some row)
    (hother : other ∈ db.contacts) (hid : other.id = id) : other = row := by
  obtain ⟨hmem, hrow, -⟩ := findLive_some hfind
  exact List.inj_on_of_nodup_map hids hother hmem (hid.trans hrow.symm)

/-- The update goes through if and only if the actor is known, once the other primary contacts
are cleared. -/
theorem updateContactRow_ok_iff (now : Nat) (params : UpdateContactParams)
    (hids : (db.contacts.map ContactPoint.id).Nodup) {row : ContactPoint}
    (hfind : db.contacts.find? (fun row => row.id = params.id ∧ row.deletedAt = none) = some row) :
    (∃ out after, updateContactRow now params
      (db.edit (demote now row.userId row.contactType params.id)) = .ok (out, after)) ↔
    db.ActorKnown params.updatedBy := by
  have hkeeps := demote_keeps now row.userId row.contactType params.id
  constructor
  · rintro ⟨out, after, hrow⟩
    obtain ⟨-, -, -, -, -, hknown, -⟩ := updateContactRow_ok hrow
    exact hknown
  · intro hknown
    let cleared := db.edit (demote now row.userId row.contactType params.id)
    obtain ⟨hmem, hid, hlive⟩ := findLive_some hfind
    have hsame : demote now row.userId row.contactType params.id row = row :=
      if_neg fun hcleared => hcleared.2 hid
    have hrow : row ∈ cleared.contacts := List.mem_map.mpr ⟨row, hmem, hsame⟩
    have hfound : cleared.contacts.find? (fun row => row.id = params.id ∧ row.deletedAt = none) =
        some row := by
      cases hfound : cleared.contacts.find? fun row => row.id = params.id ∧ row.deletedAt = none with
      | none =>
          have hnone := List.find?_eq_none.mp hfound row hrow
          exact absurd (decide_eq_true ⟨hid, hlive⟩) hnone
      | some found =>
          have hclearedIDs := nodup_cleared hids now row.userId row.contactType params.id
          rw [eq_of_findLive hclearedIDs hfound hrow hid]
    refine ⟨contactFrom (Db.changedContact now params row), cleared.edit (rewrite now params), ?_⟩
    unfold updateContactRow
    rw [hfound]
    dsimp only
    split_ifs with hindex hactor
    · obtain ⟨-, other, hother, hne, hother'⟩ := hindex
      obtain ⟨source, -, rfl⟩ := List.mem_map.mp hother
      have hexcluded := demote_excluded now row.userId row.contactType params.id source hother'
      exact absurd ((hkeeps.id source).trans hexcluded) hne
    · rfl
    · exact absurd hknown hactor

variable (now actorID userID store) (contactID : Uuid)

theorem run_updateContact_audited (req : UpdateContactRequest) :
    ((Service.updateContact actorID userID contactID req).run serveAudited ⟨now, fun _ => false⟩
      store).2 =
      match store.1.contacts.find? fun row => row.id = contactID ∧ row.deletedAt = none with
      | none => store
      | some row =>
          if row.userId = userID then
            (committed (Repository.updateAudited ⟨now, fun _ => false⟩ actorID userID
              row.contactType req.isPrimary
              (Service.updateParams actorID contactID req (contactFrom row))) store).2
          else store := by
  unfold Service.updateContact
  simp only [Program.run_bind, Program.run_perform, serveAudited_getContact, Db.getContact]
  cases store.1.contacts.find? fun row => row.id = contactID ∧ row.deletedAt = none with
  | none => rfl
  | some row =>
      dsimp only
      have huser : (contactFrom row).userId = row.userId := rfl
      have htype : (contactFrom row).contactType = row.contactType := rfl
      by_cases howner : row.userId = userID
      · rw [if_neg (not_not.mpr (huser.trans howner)), if_pos howner]
        simp only [Program.run_bind, Program.run_perform, serveAudited, withActor_eq_committed,
          huser, htype, howner]
        generalize committed _ store = result
        rcases result with ⟨_ | _, _⟩ <;> rfl
      · rw [if_pos (huser.trans_ne howner), if_neg howner]
        rfl

theorem run_deleteContact_audited :
    ((Service.deleteContact actorID userID contactID).run serveAudited ⟨now, fun _ => false⟩
      store).2 =
      match store.1.contacts.find? fun row => row.id = contactID ∧ row.deletedAt = none with
      | none => store
      | some row =>
          if row.userId = userID then
            (committed (Repository.softDeleteAudited ⟨now, fun _ => false⟩ actorID contactID
              (actorNull actorID)) store).2
          else store := by
  unfold Service.deleteContact
  simp only [Program.run_bind, Program.run_perform, serveAudited_getContact, Db.getContact]
  cases store.1.contacts.find? fun row => row.id = contactID ∧ row.deletedAt = none with
  | none => rfl
  | some row =>
      dsimp only
      have huser : (contactFrom row).userId = row.userId := rfl
      by_cases howner : row.userId = userID
      · rw [if_neg (not_not.mpr (huser.trans howner)), if_pos howner]
        simp only [Program.run_bind, Program.run_perform, serveAudited, withActor_eq_committed]
        generalize committed _ store = result
        rcases result with ⟨_ | _, _⟩ <;> rfl
      · rw [if_pos (huser.trans_ne howner), if_neg howner]
        rfl

variable {now actorID userID store contactID}

theorem leads_updateContact (hlawful : contactTable.Lawful store.1.contacts store.2)
    (req : UpdateContactRequest) :
    Leads (store.1.UpdateSigns actorID userID contactID req) store
      ((Service.updateContact actorID userID contactID req).run serveAudited ⟨now, fun _ => false⟩
        store).2 := by
  rw [run_updateContact_audited]
  cases hfind : store.1.contacts.find? fun row => row.id = contactID ∧ row.deletedAt = none with
  | none =>
      refine ⟨rfl, hlawful.unchanged fun _ _ contact hmem hid hlive => ?_⟩
      exact absurd (decide_eq_true ⟨hid, hlive⟩) (List.find?_eq_none.mp hfind contact hmem)
  | some row =>
      have hunique : ∀ contact ∈ store.1.contacts, contact.id = contactID → contact = row :=
        fun contact hmem hid => eq_of_findLive hlawful.ids hfind hmem hid
      dsimp only
      split
      next howner =>
        subst howner
        let params := Service.updateParams actorID contactID req (contactFrom row)
        cases hprimary : req.isPrimary with
        | false =>
            have hleads : Leads True store (committed (audited actorID now
                (updateWrite now params) (updateContactRow now params)) store).2 :=
              Authored.leads_statement hlawful fun _ _ hrow => performs_update hlawful.ids rfl hrow
            exact hleads.iff (by simp [Db.UpdateSigns, hprimary])
        | true =>
            have hleads := leads_clearedWrite now actorID (updateWrite now params)
              (updateContactRow now params) row.userId row.contactType contactID hlawful ?_
            · have hok := updateContactRow_ok_iff now params hlawful.ids hfind
              refine hleads.iff ⟨?_, ?_⟩
              · intro hsigns _ hknown contact hmem hid _ _
                rw [hunique contact hmem hid]
                exact hsigns (hok.mpr hknown)
              · obtain ⟨hmem, hid, hlive⟩ := findLive_some hfind
                exact fun hsigns hrow => hsigns hprimary (hok.mp hrow) row hmem hid hlive rfl
            · intro out after hrow
              have hkeeps := demote_keeps now row.userId row.contactType contactID
              have hids := nodup_cleared hlawful.ids now row.userId row.contactType contactID
              obtain ⟨-, -, -, -, -, hactor, -, hafter⟩ := updateContactRow_ok hrow
              refine ⟨performs_update hids rfl hrow, hactor, ?_⟩
              subst hafter
              -- The contact that is written is not among those that are cleared.
              intro written hwritten
              obtain ⟨source, hsource, rfl⟩ := List.mem_map.mp hwritten
              obtain ⟨hmem, hselected⟩ := List.mem_filter.mp hsource
              have hother : (demote now row.userId row.contactType contactID source).id ≠ params.id :=
                (hkeeps.id source).trans_ne (of_decide_eq_true hselected).2
              exact List.mem_map.mpr ⟨_, List.mem_map_of_mem hmem, rewrite_of_ne hother⟩
      next howner =>
        refine ⟨rfl, hlawful.unchanged fun _ _ contact hmem hid _ huser => ?_⟩
        rw [hunique contact hmem hid] at huser
        exact absurd huser howner

/-- A deletion names its actor in the row. -/
theorem leads_deleteContact (hlawful : contactTable.Lawful store.1.contacts store.2) :
    Leads True store ((Service.deleteContact actorID userID contactID).run serveAudited
      ⟨now, fun _ => false⟩ store).2 := by
  rw [run_deleteContact_audited]
  cases hfind : store.1.contacts.find? fun row => row.id = contactID ∧ row.deletedAt = none with
  | none => exact ⟨rfl, hlawful.unchanged trivial⟩
  | some row =>
      dsimp only
      split
      · refine Authored.leads_statement hlawful fun _ after hrow => ?_
        obtain ⟨rfl, -⟩ := softDeleteContactRow_ok hrow
        refine ⟨rfl, retired_contacts .., (Db.pkey_edit retire_keeps.id).symm ▸ hlawful.ids, ?_⟩
        intro written hwritten
        obtain ⟨source, hsource, rfl⟩ := List.mem_map.mp hwritten
        rw [retire, if_pos (of_decide_eq_true (List.mem_filter.mp hsource).2)]
        rfl
      · exact ⟨rfl, hlawful.unchanged trivial⟩

end Requests

/-! ## With and without the log -/

/-- The transaction of the call, if it makes one, has this actor. -/
def Op.By (actorID : Uuid) : Op → Prop
  | .getContact _ => True
  | .createContact actor _ _ _ | .updateContact actor _ _ _ _ | .softDeleteContact actor _ _ =>
      actor = actorID

/-- The log has grown by entries that account for what has changed in `user_contact_points`. -/
abbrev ContactsAccounted (actor : Option Uuid) :
    Db × List AuditLog → Db → Db × List AuditLog → Prop :=
  contactTable.Accounted actor Db.users Db.contacts

section Accounts

variable {actorID : Uuid} {start : Db × List AuditLog}

theorem mirrors_clear (now : Nat) (userID : Uuid) (contactType : String) (excludeID : Uuid) :
    Tx.Mirrors (ContactsAccounted (actorNull actorID) start)
      (clearPrimaryContacts now userID contactType excludeID)
      (audited actorID now (clearWrite now userID contactType excludeID)
        (clearPrimaryContacts now userID contactType excludeID)) := by
  refine Authored.mirrors_statement fun db out after hrow => ?_
  obtain ⟨-, rfl⟩ := Prod.mk.inj (Except.ok.inj hrow)
  exact ⟨rfl, cleared_contacts now userID contactType excludeID db⟩

theorem mirrors_create (moment : Moment) (id : Uuid) (clearPrimary : Bool)
    (params : CreateContactParams) :
    Tx.Mirrors (ContactsAccounted (actorNull actorID) start)
      (Repository.createContact moment id clearPrimary params)
      (Repository.createAudited moment actorID id clearPrimary params) := by
  have hwrite : Tx.Mirrors (ContactsAccounted (actorNull actorID) start)
      (createContactRow moment.now id params)
      (audited actorID moment.now (.insert (Db.newContact moment.now id params))
        (createContactRow moment.now id params)) := by
    refine Authored.mirrors_statement fun db out after hrow => ?_
    obtain ⟨-, -, -, -, -, -, rfl⟩ := createContactRow_ok hrow
    exact ⟨rfl, rfl⟩
  cases clearPrimary with
  | false => exact .statement moment .write hwrite
  | true =>
      exact .bind (.statement moment .clear (mirrors_clear ..))
        fun _ => .statement moment .write hwrite

theorem mirrors_update (moment : Moment) (userID : Uuid) (contactType : String)
    (clearPrimary : Bool) (params : UpdateContactParams) :
    Tx.Mirrors (ContactsAccounted (actorNull actorID) start)
      (Repository.updateContact moment userID contactType clearPrimary params)
      (Repository.updateAudited moment actorID userID contactType clearPrimary params) := by
  have hwrite : Tx.Mirrors (ContactsAccounted (actorNull actorID) start)
      (updateContactRow moment.now params)
      (audited actorID moment.now (updateWrite moment.now params)
        (updateContactRow moment.now params)) := by
    refine Authored.mirrors_statement fun db out after hrow => ?_
    obtain ⟨-, -, -, -, -, -, -, rfl⟩ := updateContactRow_ok hrow
    exact ⟨rfl, rewritten_contacts moment.now params db⟩
  cases clearPrimary with
  | false => exact .statement moment .write hwrite
  | true =>
      exact .bind (.statement moment .clear (mirrors_clear ..))
        fun _ => .statement moment .write hwrite

theorem mirrors_softDelete (moment : Moment) (id : Uuid) (updatedBy : Option Uuid) :
    Tx.Mirrors (ContactsAccounted (actorNull actorID) start)
      (Repository.softDeleteContact moment id updatedBy)
      (Repository.softDeleteAudited moment actorID id updatedBy) := by
  refine .statement moment .write (Authored.mirrors_statement fun db out after hrow => ?_)
  obtain ⟨rfl, -⟩ := softDeleteContactRow_ok hrow
  exact ⟨rfl, retired_contacts ..⟩

/-- For an actor who is a user, only the log tells a call from one without the trigger. -/
theorem simulates_serveAudited (actorID : Uuid) (moment : Moment) (start : Db × List AuditLog) :
    Program.Simulates serve serveAudited moment (Op.By actorID)
      (ContactsAccounted (actorNull actorID) start) := by
  intro op db store hby haccounted
  cases op with
  | getContact id =>
      obtain rfl := haccounted.same
      exact ⟨rfl, haccounted⟩
  | createContact actor id clearPrimary params =>
      obtain rfl : actor = actorID := hby
      exact (mirrors_create moment id clearPrimary params).withActor moment haccounted
  | updateContact actor userID contactType clearPrimary params =>
      obtain rfl : actor = actorID := hby
      exact (mirrors_update moment userID contactType clearPrimary params).withActor moment
        haccounted
  | softDeleteContact actor id updatedBy =>
      obtain rfl : actor = actorID := hby
      exact (mirrors_softDelete moment id updatedBy).withActor moment haccounted

end Accounts

end Skolva.Crm
