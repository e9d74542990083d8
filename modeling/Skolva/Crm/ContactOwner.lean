import Skolva.Crm.PrimaryContacts

/-! # Contact methods and the owner of the contact

Updates and deletions first read the contact, and reject a request under another user. What
they then write leaves the contacts of every other user.
-/

namespace Skolva.Crm

open Dbexec Effect

/-! ## The live contacts of a user -/

namespace Db

variable (db : Db)

/-- A live contact with this key belongs to the user. -/
def OwnsLive (userID contactID : Uuid) : Prop :=
  ∃ row ∈ db.contacts, row.id = contactID ∧ row.userId = userID ∧ row.deletedAt = none

/-- The contacts of a user, deleted ones too. -/
def contactsOf (userID : Uuid) : List ContactPoint :=
  db.contacts.filter fun row => row.userId = userID

variable {db}

/-- With distinct keys, a look-up finds the live contact of the user. -/
theorem OwnsLive.find? (hpkey : (db.contacts.map ContactPoint.id).Nodup) {userID contactID : Uuid}
    (howns : db.OwnsLive userID contactID) : ∃ row,
      db.contacts.find? (fun row => row.id = contactID ∧ row.deletedAt = none) = some row ∧
        row.userId = userID := by
  obtain ⟨row, hrow, hid, huser, hlive⟩ := howns
  cases hfind : db.contacts.find? fun row => row.id = contactID ∧ row.deletedAt = none with
  | none =>
      have hnone := List.find?_eq_none.mp hfind row hrow
      simp [hid, hlive] at hnone
  | some found =>
      obtain ⟨hmem, hid', _⟩ := findLive_some hfind
      have heq : found = row :=
        List.inj_on_of_nodup_map hpkey hmem hrow (hid'.trans hid.symm)
      exact ⟨found, rfl, heq ▸ huser⟩

theorem contactsOf_edit {change : ContactPoint → ContactPoint} (hkeeps : Keeps change)
    {userID : Uuid} (hothers : ∀ row ∈ db.contacts, row.userId = userID → change row = row) :
    (db.edit change).contactsOf userID = db.contactsOf userID := by
  apply Sql.filter_map_of_selected
  · intro row _
    rw [hkeeps.userId]
  · intro row hrow huser
    exact hothers row hrow (of_decide_eq_true huser)

theorem contactsOf_insert {row : ContactPoint} {userID : Uuid} (hne : row.userId ≠ userID) :
    (db.insert row).contactsOf userID = db.contactsOf userID := by
  simp [contactsOf, insert, hne]

theorem contactsOf_cleared (now : Nat) (clearPrimary : Bool) {owner userID : Uuid}
    (hne : owner ≠ userID) (contactType : String) (excludeID : Uuid) :
    (db.cleared now clearPrimary owner contactType excludeID).contactsOf userID =
      db.contactsOf userID := by
  unfold cleared
  split
  · apply contactsOf_edit (demote_keeps now owner contactType excludeID)
    intro row _ huser
    refine if_neg fun hlive => hne ?_
    exact hlive.1.1.symm.trans huser
  · rfl

end Db

/-! ## What the methods do -/

section Methods

variable (moment : Moment) (actorID userID : Uuid) (db : Db)

/-- A creation is rejected, or it inserts a contact of the user. -/
theorem run_createContact (id : Uuid) (req : CreateContactRequest) :
    let run := (Service.createContact id actorID userID req).run serve moment db
    (∃ message, run = (.error (.validation message), db)) ∨
    (∃ cause, run = (.error (.call cause), db)) ∨
    ∃ params : CreateContactParams, params.userID = userID ∧ ∃ contact after,
      run = (.ok contact, after) ∧
      createContactRow moment.now id params (db.cleared moment.now req.isPrimary params.userID
        params.contactType Uuid.nil) = .ok (contact, after) := by
  intro run
  by_cases htype : req.contactType ∈ validContactTypes
  · right
    simp only [run, Service.createContact, htype, not_true_eq_false, if_false, Program.run_bind,
      Program.run_perform, serve]
    generalize hparams : CreateContactParams.mk .. = params
    have huser : params.userID = userID := by rw [← hparams]
    rcases createContact_cases moment id req.isPrimary params db with
      ⟨err, htx, _⟩ | ⟨contact, after, htx, hrow⟩
    · exact Or.inl ⟨err, by rw [htx]; rfl⟩
    · exact Or.inr ⟨params, huser, contact, after, by rw [htx]; rfl, hrow⟩
  · left
    refine ⟨"invalid contact_type", ?_⟩
    simp only [run, Service.createContact, htype, not_false_eq_true, if_true]
    rfl

variable (contactID : Uuid)

variable {moment db contactID} in
/-- The reading of a contact, as the owner of the contact decides it. -/
theorem serve_getContact_owned (hreads : moment.fails .read = false)
    (hpkey : (db.contacts.map ContactPoint.id).Nodup) :
    (¬db.OwnsLive userID contactID ∧
      (serve moment (.getContact contactID) db = (.error .noRows, db) ∨
        ∃ contact : Contact, contact.userId ≠ userID ∧
          serve moment (.getContact contactID) db = (.ok contact, db))) ∨
    db.OwnsLive userID contactID ∧ ∃ contact : Contact, contact.userId = userID ∧
      serve moment (.getContact contactID) db = (.ok contact, db) := by
  cases hfind : db.contacts.find? fun row => row.id = contactID ∧ row.deletedAt = none with
  | none =>
      refine Or.inl ⟨fun howns => ?_, Or.inl ?_⟩
      · obtain ⟨row, hrow, _⟩ := howns.find? hpkey
        rw [hfind] at hrow
        cases hrow
      · have hget : db.getContact contactID = .error .noRows := by rw [Db.getContact, hfind]
        simp [serve, hreads, hget]
  | some row =>
      have hread : serve moment (.getContact contactID) db = (.ok (contactFrom row), db) := by
        have hget : db.getContact contactID = .ok (contactFrom row) := by
          rw [Db.getContact, hfind]
        simp [serve, hreads, hget]
      by_cases huser : row.userId = userID
      · obtain ⟨hmem, hid, hlive⟩ := findLive_some hfind
        exact Or.inr ⟨⟨row, hmem, hid, huser, hlive⟩, contactFrom row, huser, hread⟩
      · refine Or.inl ⟨fun howns => ?_, Or.inr ⟨contactFrom row, huser, hread⟩⟩
        obtain ⟨found, hfound, howner⟩ := howns.find? hpkey
        rw [hfind] at hfound
        obtain rfl := Option.some.inj hfound
        exact huser howner

/-- An update is rejected, unless the contact is a live one of the user. -/
theorem run_updateContact (hreads : moment.fails .read = false)
    (hpkey : (db.contacts.map ContactPoint.id).Nodup) (req : UpdateContactRequest) :
    let run := (Service.updateContact actorID userID contactID req).run serve moment db
    (¬db.OwnsLive userID contactID ∧ run = (.error (.notFound "contact"), db)) ∨
    db.OwnsLive userID contactID ∧
      ((∃ cause, run = (.error (.call cause), db)) ∨
        ∃ params : UpdateContactParams, params.id = contactID ∧ ∃ contactType contact after,
          run = (.ok contact, after) ∧
          updateContactRow moment.now params (db.cleared moment.now req.isPrimary userID
            contactType params.id) = .ok (contact, after)) := by
  intro run
  rcases serve_getContact_owned userID hreads hpkey with
    ⟨howns, hread | ⟨existing, huser, hread⟩⟩ | ⟨howns, existing, huser, hread⟩
  · refine Or.inl ⟨howns, ?_⟩
    simp only [run, Service.updateContact, Program.run_bind, Program.run_perform, hread]
    rfl
  · refine Or.inl ⟨howns, ?_⟩
    simp only [run, Service.updateContact, Program.run_bind, Program.run_perform, hread, huser,
      ne_eq, not_false_eq_true, if_true]
    rfl
  · refine Or.inr ⟨howns, ?_⟩
    simp only [run, Service.updateContact, Program.run_bind, Program.run_perform, hread, huser,
      ne_eq, not_true_eq_false, if_false]
    simp only [serve]
    rcases updateContact_cases moment existing.userId existing.contactType req.isPrimary
        (Service.updateParams actorID contactID req existing) db with
      ⟨err, htx, _⟩ | ⟨contact, after, htx, hrow⟩
    · exact Or.inl ⟨err, by rw [htx]; rfl⟩
    · rw [huser] at hrow
      exact Or.inr ⟨_, rfl, existing.contactType, contact, after, by rw [htx]; rfl, hrow⟩

/-- So is a deletion. -/
theorem run_deleteContact (hreads : moment.fails .read = false)
    (hpkey : (db.contacts.map ContactPoint.id).Nodup) :
    let run := (Service.deleteContact actorID userID contactID).run serve moment db
    (¬db.OwnsLive userID contactID ∧ run = (.error (.notFound "contact"), db)) ∨
    db.OwnsLive userID contactID ∧
      ((∃ cause, run = (.error (.call cause), db)) ∨
        run = (.ok (), db.edit (retire moment.now contactID (actorNull actorID)))) := by
  intro run
  rcases serve_getContact_owned userID hreads hpkey with
    ⟨howns, hread | ⟨existing, huser, hread⟩⟩ | ⟨howns, existing, huser, hread⟩
  · refine Or.inl ⟨howns, ?_⟩
    simp only [run, Service.deleteContact, Program.run_bind, Program.run_perform, hread]
    rfl
  · refine Or.inl ⟨howns, ?_⟩
    simp only [run, Service.deleteContact, Program.run_bind, Program.run_perform, hread, huser,
      ne_eq, not_false_eq_true, if_true]
    rfl
  · refine Or.inr ⟨howns, ?_⟩
    simp only [run, Service.deleteContact, Program.run_bind, Program.run_perform, hread, huser,
      ne_eq, not_true_eq_false, if_false]
    simp only [serve]
    rcases withActor_cases moment (Repository.softDeleteContact moment contactID
      (actorNull actorID)) db with ⟨err, htx, _⟩ | ⟨_, after, htx, hbody⟩
    · exact Or.inl ⟨err, by rw [htx]; rfl⟩
    · obtain ⟨rfl, _⟩ := softDeleteContactRow_ok (statement_ok hbody)
      exact Or.inr (by rw [htx]; rfl)

end Methods

/-! ## What a write leaves -/

section Write

variable {now : Nat} {owner userID : Uuid} {clearPrimary : Bool} {db after : Db} {contact : Contact}

theorem contactsOf_created {id : Uuid} {params : CreateContactParams}
    (hpkey : (db.contacts.map ContactPoint.id).Nodup)
    (hrow : createContactRow now id params (db.cleared now clearPrimary params.userID
      params.contactType Uuid.nil) = .ok (contact, after)) :
    (after.contacts.map ContactPoint.id).Nodup ∧
      (params.userID ≠ userID → after.contactsOf userID = db.contactsOf userID) := by
  obtain ⟨_, hkey, _, _, _, _, rfl⟩ := createContactRow_ok hrow
  constructor
  · apply Db.pkey_insert
    · rw [cleared_pkey]
      exact hpkey
    · exact hkey
  · intro hne
    have hnew : (Db.newContact now id params).userId ≠ userID := hne
    rw [Db.contactsOf_insert hnew, Db.contactsOf_cleared now clearPrimary hne]

/-- Every row with the key of a contact belongs to the owner of the contact. -/
theorem Db.OwnsLive.owner_unique {contactID : Uuid}
    (hpkey : (db.contacts.map ContactPoint.id).Nodup) (howns : db.OwnsLive owner contactID)
    {row : ContactPoint} (hrow : row ∈ db.contacts) (hid : row.id = contactID) :
    row.userId = owner := by
  obtain ⟨found, hfound, hid', howner, _⟩ := howns
  have heq : row = found := List.inj_on_of_nodup_map hpkey hrow hfound (hid.trans hid'.symm)
  rw [heq, howner]

theorem ownsLive_cleared {contactID excludeID : Uuid} {contactType : String}
    (howns : db.OwnsLive owner contactID) :
    (db.cleared now clearPrimary owner contactType excludeID).OwnsLive owner contactID := by
  unfold Db.cleared
  split
  · obtain ⟨row, hrow, hid, howner, hlive⟩ := howns
    have hkeeps := demote_keeps now owner contactType excludeID
    refine ⟨demote now owner contactType excludeID row, List.mem_map_of_mem hrow,
      (hkeeps.id row).trans hid, (hkeeps.userId row).trans howner, ?_⟩
    unfold demote
    split <;> exact hlive
  · exact howns

theorem contactsOf_updated {params : UpdateContactParams} {contactType : String}
    (hpkey : (db.contacts.map ContactPoint.id).Nodup) (howns : db.OwnsLive owner params.id)
    (hrow : updateContactRow now params (db.cleared now clearPrimary owner contactType params.id) =
      .ok (contact, after)) :
    (after.contacts.map ContactPoint.id).Nodup ∧
      (owner ≠ userID → after.contactsOf userID = db.contactsOf userID) := by
  obtain ⟨_, _, _, _, _, _, _, rfl⟩ := updateContactRow_ok hrow
  have hcleared : ((db.cleared now clearPrimary owner contactType params.id).contacts.map
      ContactPoint.id).Nodup := by
    rw [cleared_pkey]
    exact hpkey
  constructor
  · rw [Db.pkey_edit rewrite_keeps.id]
    exact hcleared
  · intro hne
    rw [Db.contactsOf_edit rewrite_keeps, Db.contactsOf_cleared now clearPrimary hne]
    intro row hmem huser
    refine rewrite_of_ne fun hid => hne ?_
    exact ((ownsLive_cleared howns).owner_unique hcleared hmem hid).symm.trans huser

theorem contactsOf_retired {contactID : Uuid} {updatedBy : Option Uuid}
    (hpkey : (db.contacts.map ContactPoint.id).Nodup) (howns : db.OwnsLive owner contactID) :
    ((db.edit (retire now contactID updatedBy)).contacts.map ContactPoint.id).Nodup ∧
      (owner ≠ userID →
        (db.edit (retire now contactID updatedBy)).contactsOf userID = db.contactsOf userID) := by
  constructor
  · rw [Db.pkey_edit retire_keeps.id]
    exact hpkey
  · intro hne
    rw [Db.contactsOf_edit retire_keeps]
    intro row hmem huser
    refine if_neg fun hgone => hne ?_
    exact (howns.owner_unique hpkey hmem hgone.1).symm.trans huser

end Write

/-! ## What a method leaves -/

/-- The table keeps its keys, and the contacts of a user whom the method does not reach. -/
structure Leaves (userID : Uuid) (reached : Prop) (db after : Db) : Prop where
  pkey : (after.contacts.map ContactPoint.id).Nodup
  rows : ¬reached → after.contactsOf userID = db.contactsOf userID

section Leaves

variable (moment : Moment) (db : Db) (actorID owner userID : Uuid)

theorem leaves_createContact (hpkey : (db.contacts.map ContactPoint.id).Nodup) (id : Uuid)
    (req : CreateContactRequest) : Leaves userID (owner = userID) db
      ((Service.createContact id actorID owner req).run serve moment db).2 := by
  rcases run_createContact moment actorID owner db id req with
    ⟨_, hrun⟩ | ⟨_, hrun⟩ | ⟨params, rfl, contact, after, hrun, hrow⟩
  · rw [hrun]
    exact ⟨hpkey, fun _ => rfl⟩
  · rw [hrun]
    exact ⟨hpkey, fun _ => rfl⟩
  · rw [hrun]
    obtain ⟨hafter, hcontacts⟩ := contactsOf_created hpkey hrow
    exact ⟨hafter, hcontacts⟩

theorem leaves_updateContact (hreads : moment.fails .read = false)
    (hpkey : (db.contacts.map ContactPoint.id).Nodup) (contactID : Uuid)
    (req : UpdateContactRequest) :
    Leaves userID (owner = userID ∧ db.OwnsLive owner contactID) db
      ((Service.updateContact actorID owner contactID req).run serve moment db).2 := by
  rcases run_updateContact moment actorID owner db contactID hreads hpkey req with
    ⟨_, hrun⟩ | ⟨howns, ⟨_, hrun⟩ | ⟨params, rfl, _, contact, after, hrun, hrow⟩⟩
  · rw [hrun]
    exact ⟨hpkey, fun _ => rfl⟩
  · rw [hrun]
    exact ⟨hpkey, fun _ => rfl⟩
  · rw [hrun]
    obtain ⟨hafter, hcontacts⟩ := contactsOf_updated hpkey howns hrow
    exact ⟨hafter, fun hother => hcontacts fun heq => hother ⟨heq, howns⟩⟩

theorem leaves_deleteContact (hreads : moment.fails .read = false)
    (hpkey : (db.contacts.map ContactPoint.id).Nodup) (contactID : Uuid) :
    Leaves userID (owner = userID ∧ db.OwnsLive owner contactID) db
      ((Service.deleteContact actorID owner contactID).run serve moment db).2 := by
  rcases run_deleteContact moment actorID owner db contactID hreads hpkey with
    ⟨_, hrun⟩ | ⟨howns, ⟨_, hrun⟩ | hrun⟩
  · rw [hrun]
    exact ⟨hpkey, fun _ => rfl⟩
  · rw [hrun]
    exact ⟨hpkey, fun _ => rfl⟩
  · rw [hrun]
    obtain ⟨hafter, hcontacts⟩ := contactsOf_retired hpkey howns
    exact ⟨hafter, fun hother => hcontacts fun heq => hother ⟨heq, howns⟩⟩

end Leaves

end Skolva.Crm
