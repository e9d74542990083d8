import Skolva.Crm.Contacts
import Skolva.Sql.RowTrigger
import Mathlib.Data.List.Nodup

/-! # The primary contact of a user and a type

Clearing the former primary contact comes before the write, so a request for a primary
contact does not meet the unique index. The clearing excludes the contact that is written.
A contact that is still to be created has no identifier, and `uuid.Nil` stands in for it.
-/

namespace Skolva.Crm

open Dbexec Effect

/-! ## Edits of the rows -/

/-- A change to rows that keeps their keys and owners, and does not bring a deleted row
back. -/
structure Keeps (edit : ContactPoint → ContactPoint) : Prop where
  id : ∀ row, (edit row).id = row.id
  userId : ∀ row, (edit row).userId = row.userId
  contactType : ∀ row, (edit row).contactType = row.contactType
  createdBy : ∀ row, (edit row).createdBy = row.createdBy
  deletedAt : ∀ row, (edit row).deletedAt = none → row.deletedAt = none

namespace Db

variable (db : Db)

/-- The table with every row changed. -/
def edit (change : ContactPoint → ContactPoint) : Db :=
  { db with contacts := db.contacts.map change }

/-- The table with a new row. -/
def insert (row : ContactPoint) : Db := { db with contacts := db.contacts ++ [row] }

/-- No live contact carries the identifier that stands for none. -/
def NoNil : Prop := ∀ row ∈ db.contacts, row.deletedAt = none → row.id ≠ Uuid.nil

/-- The user and the type of the contact with this key. -/
def owner (id : Uuid) : Option (Uuid × String) :=
  (db.contactWith id).map fun row => (row.userId, row.contactType)

variable {db}

theorem contactWith_eq_some_iff (hpkey : (db.contacts.map ContactPoint.id).Nodup) (id : Uuid)
    (row : ContactPoint) : db.contactWith id = some row ↔ row ∈ db.contacts ∧ row.id = id :=
  Sql.find?_key_eq_some_iff ContactPoint.id hpkey id row

/-- Rows with distinct keys satisfy the index if no two of them are in it under one user
and type. -/
theorem primaryUnique_iff (hpkey : (db.contacts.map ContactPoint.id).Nodup) :
    db.PrimaryUnique ↔ ∀ one ∈ db.contacts, ∀ other ∈ db.contacts, ∀ userID contactType,
      one.IsLivePrimary userID contactType → other.IsLivePrimary userID contactType →
      one.id = other.id := by
  constructor
  · intro hunique one hone other hother userID contactType hlive hlive'
    by_contra hne
    have hsymm : Std.Symm fun one other : ContactPoint => ∀ userID contactType,
        one.IsLivePrimary userID contactType → ¬other.IsLivePrimary userID contactType :=
      ⟨fun _ _ hrel userID contactType hlive hlive' => hrel userID contactType hlive' hlive⟩
    have hrows : one ≠ other := by
      intro heq
      exact hne (congrArg ContactPoint.id heq)
    exact hunique.forall hone hother hrows userID contactType hlive hlive'
  · intro hids
    have hkeys : db.contacts.Pairwise fun one other => one.id ≠ other.id :=
      List.pairwise_map.mp hpkey
    apply hkeys.imp_of_mem
    intro one other hone hother hne userID contactType hlive hlive'
    exact hne (hids one hone other hother userID contactType hlive hlive')

variable {change : ContactPoint → ContactPoint}

theorem contactWith_edit (hid : ∀ row, (change row).id = row.id) (id : Uuid) :
    (db.edit change).contactWith id = (db.contactWith id).map change := by
  simp only [contactWith, edit, List.find?_map]
  congr 2
  funext row
  simp [hid]

theorem contactWith_insert (row : ContactPoint)
    (hnew : row.id ∉ db.contacts.map ContactPoint.id) :
    (db.insert row).contactWith row.id = some row := by
  have hnone : db.contacts.find? (fun other => other.id = row.id) = none := by
    apply List.find?_eq_none.mpr
    intro other hother heq
    exact hnew (List.mem_map.mpr ⟨other, hother, by simpa using heq⟩)
  simp [contactWith, insert, List.find?_append, hnone]

theorem contactWith_insert_of_ne (row : ContactPoint) {id : Uuid} (hne : id ≠ row.id) :
    (db.insert row).contactWith id = db.contactWith id := by
  simp [contactWith, insert, List.find?_append, hne.symm]

theorem pkey_edit (hid : ∀ row, (change row).id = row.id) :
    (db.edit change).contacts.map ContactPoint.id = db.contacts.map ContactPoint.id := by
  simp [edit, hid]

theorem pkey_insert {row : ContactPoint} (hpkey : (db.contacts.map ContactPoint.id).Nodup)
    (hnew : row.id ∉ db.contacts.map ContactPoint.id) :
    ((db.insert row).contacts.map ContactPoint.id).Nodup := by
  rw [insert, List.map_append, List.nodup_append]
  refine ⟨hpkey, by simp, ?_⟩
  simp only [List.map_cons, List.map_nil, List.forall_mem_singleton]
  intro key hmem heq
  rw [heq] at hmem
  exact hnew hmem

theorem owner_edit (hkeeps : Keeps change) (id : Uuid) :
    (db.edit change).owner id = db.owner id := by
  rw [owner, contactWith_edit hkeeps.id, Option.map_map, owner]
  congr 1
  funext row
  simp [hkeeps.userId, hkeeps.contactType]

theorem Valid.edit (hvalid : db.Valid) (hkeeps : Keeps change)
    (hupdatedBy : ∀ row ∈ db.contacts, ∀ user ∈ (change row).updatedBy, user ∈ db.users)
    (hprimary : (db.edit change).PrimaryUnique) : (db.edit change).Valid where
  pkey := (pkey_edit hkeeps.id).symm ▸ hvalid.pkey
  contactType := by
    simp only [Db.edit, List.forall_mem_map, hkeeps.contactType]
    exact hvalid.contactType
  user := by
    simp only [Db.edit, List.forall_mem_map, hkeeps.userId]
    exact hvalid.user
  createdBy := by
    simp only [Db.edit, List.forall_mem_map, hkeeps.createdBy]
    exact hvalid.createdBy
  updatedBy := by
    simp only [Db.edit, List.forall_mem_map]
    exact hupdatedBy
  primary := hprimary

theorem NoNil.edit (hnil : db.NoNil) (hkeeps : Keeps change) : (db.edit change).NoNil := by
  simp only [NoNil, Db.edit, List.forall_mem_map, hkeeps.id]
  exact fun row hrow hlive => hnil row hrow (hkeeps.deletedAt row hlive)

/-- An edit that makes no row primary keeps the index. -/
theorem PrimaryUnique.edit (hunique : db.PrimaryUnique)
    (hlive : ∀ row userID contactType, (change row).IsLivePrimary userID contactType →
      row.IsLivePrimary userID contactType) : (db.edit change).PrimaryUnique := by
  apply List.pairwise_map.mpr
  apply hunique.imp
  intro one other hrel userID contactType hone hother
  exact hrel userID contactType (hlive _ _ _ hone) (hlive _ _ _ hother)

end Db

/-! ## Clearing the primary contact -/

/-- What `ClearPrimaryContacts` does to a row. -/
def demote (now : Nat) (userID : Uuid) (contactType : String) (excludeID : Uuid)
    (row : ContactPoint) : ContactPoint :=
  if row.IsLivePrimary userID contactType ∧ row.id ≠ excludeID then
    { row with isPrimary := false, updatedAt := now }
  else row

section Demote

variable (now : Nat) (userID : Uuid) (contactType : String) (excludeID : Uuid)

theorem demote_keeps : Keeps (demote now userID contactType excludeID) := by
  constructor <;> intro row <;> unfold demote <;> split <;> simp

@[simp] theorem demote_updatedBy (row : ContactPoint) :
    (demote now userID contactType excludeID row).updatedBy = row.updatedBy := by
  unfold demote
  split <;> rfl

theorem demote_live (row : ContactPoint) (owner : Uuid) (kind : String)
    (hlive : (demote now userID contactType excludeID row).IsLivePrimary owner kind) :
    row.IsLivePrimary owner kind := by
  unfold demote at hlive
  split at hlive
  · simp [ContactPoint.IsLivePrimary] at hlive
  · exact hlive

/-- Afterwards only the excluded row can be primary. -/
theorem demote_excluded (row : ContactPoint)
    (hlive : (demote now userID contactType excludeID row).IsLivePrimary userID contactType) :
    row.id = excludeID := by
  have hrow := demote_live now userID contactType excludeID row _ _ hlive
  by_contra hne
  rw [demote, if_pos ⟨hrow, hne⟩] at hlive
  simp [ContactPoint.IsLivePrimary] at hlive

end Demote

/-- The table that the write of a request finds in its transaction. -/
def Db.cleared (now : Nat) (clearPrimary : Bool) (userID : Uuid) (contactType : String)
    (excludeID : Uuid) (db : Db) : Db :=
  if clearPrimary then db.edit (demote now userID contactType excludeID) else db

section Cleared

variable (now : Nat) (clearPrimary : Bool) (userID : Uuid) (contactType : String)
variable (excludeID : Uuid) {db : Db}

theorem cleared_owner (id : Uuid) :
    (db.cleared now clearPrimary userID contactType excludeID).owner id = db.owner id := by
  unfold Db.cleared
  split
  · exact Db.owner_edit (demote_keeps now userID contactType excludeID) id
  · rfl

theorem cleared_pkey :
    (db.cleared now clearPrimary userID contactType excludeID).contacts.map ContactPoint.id =
      db.contacts.map ContactPoint.id := by
  unfold Db.cleared
  split
  · exact Db.pkey_edit (demote_keeps now userID contactType excludeID).id
  · rfl

theorem cleared_valid (hvalid : db.Valid) :
    (db.cleared now clearPrimary userID contactType excludeID).Valid := by
  unfold Db.cleared
  split
  · apply hvalid.edit (demote_keeps now userID contactType excludeID)
    · simpa using hvalid.updatedBy
    · exact (hvalid.primary.edit (demote_live now userID contactType excludeID))
  · exact hvalid

theorem cleared_noNil (hnil : db.NoNil) :
    (db.cleared now clearPrimary userID contactType excludeID).NoNil := by
  unfold Db.cleared
  split
  · exact hnil.edit (demote_keeps now userID contactType excludeID)
  · exact hnil

/-- The clearing leaves at most the excluded row in the index. -/
theorem cleared_excluded (hclear : clearPrimary = true) {row : ContactPoint}
    (hrow : row ∈ (db.cleared now clearPrimary userID contactType excludeID).contacts)
    (hlive : row.IsLivePrimary userID contactType) : row.id = excludeID := by
  rw [Db.cleared, if_pos hclear] at hrow
  obtain ⟨source, _, rfl⟩ := List.mem_map.mp hrow
  rw [(demote_keeps now userID contactType excludeID).id]
  exact demote_excluded now userID contactType excludeID source hlive

/-- The clearing changes a row only by taking it out of the index. -/
theorem cleared_contactWith (id : Uuid) :
    (db.cleared now clearPrimary userID contactType excludeID).contactWith id =
        db.contactWith id ∨
      ∃ row, db.contactWith id = some row ∧ row.IsLivePrimary userID contactType ∧
        (db.cleared now clearPrimary userID contactType excludeID).contactWith id =
          some { row with isPrimary := false, updatedAt := now } := by
  unfold Db.cleared
  split
  next =>
    rw [Db.contactWith_edit (demote_keeps now userID contactType excludeID).id]
    cases hrow : db.contactWith id with
    | none => exact Or.inl rfl
    | some row =>
        by_cases hlive : row.IsLivePrimary userID contactType ∧ row.id ≠ excludeID
        · refine Or.inr ⟨row, rfl, hlive.1, ?_⟩
          rw [Option.map_some, demote, if_pos hlive]
        · left
          rw [Option.map_some, demote, if_neg hlive]
  next => exact Or.inl rfl

end Cleared

/-! ## The transactions -/

/-- What a transaction that wrote the contact `id` leaves of the table it found. -/
structure Wrote (now : Nat) (id : Uuid) (isPrimary : Bool) (contact : Contact)
    (found after : Db) : Prop where
  valid : after.Valid
  noNil : after.NoNil
  written : ∃ row, after.contactWith id = some row ∧ contactFrom row = contact ∧
    row.deletedAt = none ∧ row.isPrimary = isPrimary
  others : ∀ other, other ≠ id → after.contactWith other = found.contactWith other ∨
    ∃ row, found.contactWith other = some row ∧
      row.IsLivePrimary contact.userId contact.contactType ∧
      after.contactWith other = some { row with isPrimary := false, updatedAt := now }

/-- The clearing comes first, so the write meets the cleared table. -/
theorem clearedWrite_eq {α : Type} (moment : Moment) (clearPrimary : Bool) (userID : Uuid)
    (contactType : String) (excludeID : Uuid) (write : Tx α) (db : Db) :
    (do
      if clearPrimary then
        Tx.statement moment .clear
          (clearPrimaryContacts moment.now userID contactType excludeID)
      Tx.statement moment .write write : Tx α) db =
      if clearPrimary = true ∧ moment.fails .clear = true then .error .unavailable
      else Tx.statement moment .write write
        (db.cleared moment.now clearPrimary userID contactType excludeID) := by
  have hbind : ∀ first : Tx Unit, (first >>= fun _ => Tx.statement moment .write write) db =
      first db >>= fun result => Tx.statement moment .write write result.2 := fun _ => rfl
  cases clearPrimary with
  | false =>
      rw [if_neg (by simp)]
      rfl
  | true =>
      simp only [if_true, true_and, Db.cleared]
      rw [hbind]
      by_cases hclear : moment.fails .clear = true
      · rw [Tx.statement, if_pos hclear, if_pos hclear]
        rfl
      · rw [Tx.statement, if_neg hclear, if_neg hclear]
        rfl

/-- Such a transaction does what its write does to the cleared table, or it leaves the
table. -/
theorem withActor_clearedWrite {α : Type} (moment : Moment) (clearPrimary : Bool) (userID : Uuid)
    (contactType : String) (excludeID : Uuid) (write : Tx α) (db : Db) :
    let tx : Tx α := do
      if clearPrimary then
        Tx.statement moment .clear
          (clearPrimaryContacts moment.now userID contactType excludeID)
      Tx.statement moment .write write
    let cleared := db.cleared moment.now clearPrimary userID contactType excludeID
    (∃ err, withActor moment tx db = (.error err, db) ∧
      (err = .unavailable ∨ write cleared = .error err)) ∨
    ∃ out after, withActor moment tx db = (.ok out, after) ∧ write cleared = .ok (out, after) := by
  intro tx cleared
  have heq : tx db = if clearPrimary = true ∧ moment.fails .clear = true then .error .unavailable
      else Tx.statement moment .write write cleared :=
    clearedWrite_eq moment clearPrimary userID contactType excludeID write db
  rcases withActor_cases moment tx db with
    ⟨err, htx, hunavailable | hbody⟩ | ⟨out, after, htx, hbody⟩
  · exact Or.inl ⟨err, htx, Or.inl hunavailable⟩
  · refine Or.inl ⟨err, htx, ?_⟩
    rw [heq] at hbody
    split at hbody
    · exact Or.inl (Except.error.inj hbody).symm
    · exact statement_error hbody
  · refine Or.inr ⟨out, after, htx, ?_⟩
    rw [heq] at hbody
    split at hbody
    · simp at hbody
    · exact statement_ok hbody

theorem createContact_cases (moment : Moment) (id : Uuid) (clearPrimary : Bool)
    (params : CreateContactParams) (db : Db) :
    let tx := Repository.createContact moment id clearPrimary params
    let cleared := db.cleared moment.now clearPrimary params.userID params.contactType Uuid.nil
    (∃ err, withActor moment tx db = (.error err, db) ∧
      (err = .unavailable ∨ createContactRow moment.now id params cleared = .error err)) ∨
    ∃ out after, withActor moment tx db = (.ok out, after) ∧
      createContactRow moment.now id params cleared = .ok (out, after) :=
  withActor_clearedWrite ..

theorem updateContact_cases (moment : Moment) (userID : Uuid) (contactType : String)
    (clearPrimary : Bool) (params : UpdateContactParams) (db : Db) :
    let tx := Repository.updateContact moment userID contactType clearPrimary params
    let cleared := db.cleared moment.now clearPrimary userID contactType params.id
    (∃ err, withActor moment tx db = (.error err, db) ∧
      (err = .unavailable ∨ updateContactRow moment.now params cleared = .error err)) ∨
    ∃ out after, withActor moment tx db = (.ok out, after) ∧
      updateContactRow moment.now params cleared = .ok (out, after) :=
  withActor_clearedWrite ..

section Create

variable {now : Nat} {id : Uuid} {params : CreateContactParams} {db after : Db} {out : Contact}

theorem createContactRow_ok (hrow : createContactRow now id params db = .ok (out, after)) :
    params.contactType ∈ contactTypes ∧ id ∉ db.contacts.map ContactPoint.id ∧
      (params.isPrimary = true →
        ∀ row ∈ db.contacts, ¬row.IsLivePrimary params.userID params.contactType) ∧
      params.userID ∈ db.users ∧ db.ActorKnown params.actor ∧
      out = contactFrom (Db.newContact now id params) ∧
      after = db.insert (Db.newContact now id params) := by
  unfold createContactRow at hrow
  split_ifs at hrow with htype hkey hindex huser
  obtain ⟨rfl, rfl⟩ := Prod.mk.inj (Except.ok.inj hrow)
  refine ⟨htype, hkey, ?_, huser.1, huser.2, rfl, rfl⟩
  intro hprimary row hmem hlive
  exact hindex ⟨hprimary, row, hmem, hlive⟩

theorem createContactRow_uniqueViolation
    (hrow : createContactRow now id params db = .error .uniqueViolation) :
    id ∈ db.contacts.map ContactPoint.id ∨ params.isPrimary = true ∧
      ∃ row ∈ db.contacts, row.IsLivePrimary params.userID params.contactType := by
  unfold createContactRow at hrow
  split_ifs at hrow with htype hkey hindex huser
  · exact Or.inl hkey
  · exact Or.inr hindex
  · simp at hrow
  · simp at hrow

end Create

section Update

variable {now : Nat} {params : UpdateContactParams} {db after : Db} {out : Contact}

/-- What `UpdateContact` does to a row. -/
def rewrite (now : Nat) (params : UpdateContactParams) (row : ContactPoint) : ContactPoint :=
  if row.id = params.id ∧ row.deletedAt = none then Db.changedContact now params row else row

theorem rewrite_keeps : Keeps (rewrite now params) := by
  constructor <;> intro row <;> unfold rewrite <;> split <;> simp [Db.changedContact]

theorem rewrite_of_ne {row : ContactPoint} (hne : row.id ≠ params.id) :
    rewrite now params row = row :=
  if_neg fun hrow => hne hrow.1

theorem rewrite_live {row : ContactPoint} {userID : Uuid} {contactType : String}
    (hid : row.id = params.id)
    (hlive : (rewrite now params row).IsLivePrimary userID contactType) :
    params.isPrimary = true ∧ row.userId = userID ∧ row.contactType = contactType := by
  have hdeleted := rewrite_keeps.deletedAt row hlive.2.2.1
  rw [rewrite, if_pos ⟨hid, hdeleted⟩] at hlive
  exact ⟨hlive.2.2.2, hlive.1, hlive.2.1⟩

theorem findLive_some {id : Uuid} {row : ContactPoint}
    (hrow : db.contacts.find? (fun row => row.id = id ∧ row.deletedAt = none) = some row) :
    row ∈ db.contacts ∧ row.id = id ∧ row.deletedAt = none :=
  ⟨List.mem_of_find?_eq_some hrow, by simpa using List.find?_some hrow⟩

theorem updateContactRow_ok (hrow : updateContactRow now params db = .ok (out, after)) :
    ∃ row ∈ db.contacts, row.id = params.id ∧ row.deletedAt = none ∧
      (params.isPrimary = true → ∀ other ∈ db.contacts, other.id ≠ params.id →
        ¬other.IsLivePrimary row.userId row.contactType) ∧
      db.ActorKnown params.updatedBy ∧ out = contactFrom (Db.changedContact now params row) ∧
      after = db.edit (rewrite now params) := by
  unfold updateContactRow at hrow
  split at hrow
  next => simp at hrow
  next row hfind =>
    obtain ⟨hmem, hid, hlive⟩ := findLive_some hfind
    split_ifs at hrow with hindex hactor
    obtain ⟨rfl, rfl⟩ := Prod.mk.inj (Except.ok.inj hrow)
    refine ⟨row, hmem, hid, hlive, ?_, hactor, rfl, rfl⟩
    intro hprimary other hother hne hlive'
    exact hindex ⟨hprimary, other, hother, hne, hlive'⟩

theorem updateContactRow_uniqueViolation
    (hrow : updateContactRow now params db = .error .uniqueViolation) :
    ∃ row ∈ db.contacts, row.id = params.id ∧ params.isPrimary = true ∧
      ∃ other ∈ db.contacts, other.id ≠ params.id ∧
        other.IsLivePrimary row.userId row.contactType := by
  unfold updateContactRow at hrow
  split at hrow
  next => simp at hrow
  next row hfind =>
    obtain ⟨hmem, hid, hlive⟩ := findLive_some hfind
    split_ifs at hrow with hindex hactor
    · exact ⟨row, hmem, hid, hindex⟩
    · simp at hrow

end Update

/-! ## What the transactions leave -/

namespace Db

variable {db : Db} {now : Nat}

/-- A new row that the index admits. -/
theorem Valid.create {id : Uuid} {params : CreateContactParams} (hvalid : db.Valid)
    (htype : params.contactType ∈ contactTypes) (hkey : id ∉ db.contacts.map ContactPoint.id)
    (hindex : params.isPrimary = true →
      ∀ row ∈ db.contacts, ¬row.IsLivePrimary params.userID params.contactType)
    (huser : params.userID ∈ db.users) (hactor : db.ActorKnown params.actor) :
    (db.insert (newContact now id params)).Valid where
  pkey := pkey_insert hvalid.pkey hkey
  contactType := by
    simp only [insert, List.forall_mem_append, List.forall_mem_singleton]
    exact ⟨hvalid.contactType, htype⟩
  user := by
    simp only [insert, List.forall_mem_append, List.forall_mem_singleton]
    exact ⟨hvalid.user, huser⟩
  createdBy := by
    simp only [insert, List.forall_mem_append, List.forall_mem_singleton]
    exact ⟨hvalid.createdBy, hactor⟩
  updatedBy := by
    simp only [insert, List.forall_mem_append, List.forall_mem_singleton]
    exact ⟨hvalid.updatedBy, hactor⟩
  primary := by
    refine List.pairwise_append.mpr ⟨hvalid.primary, List.pairwise_singleton _ _, ?_⟩
    simp only [List.forall_mem_singleton]
    rintro row hrow userID contactType hlive ⟨rfl, rfl, _, hprimary⟩
    exact hindex hprimary row hrow hlive

/-- A rewritten row that the index admits. -/
theorem Valid.update {params : UpdateContactParams} {row : ContactPoint} (hvalid : db.Valid)
    (hrow : row ∈ db.contacts) (hid : row.id = params.id)
    (hindex : params.isPrimary = true → ∀ other ∈ db.contacts, other.id ≠ params.id →
      ¬other.IsLivePrimary row.userId row.contactType)
    (hactor : db.ActorKnown params.updatedBy) : (db.edit (rewrite now params)).Valid := by
  apply hvalid.edit rewrite_keeps
  · intro other hother user huser
    unfold rewrite at huser
    split at huser
    · exact hactor user huser
    · exact hvalid.updatedBy other hother user huser
  · have hother : ∀ other ∈ db.contacts, other.id = params.id → other = row :=
      fun other hother heq => List.inj_on_of_nodup_map hvalid.pkey hother hrow (heq.trans hid.symm)
    have hpkey : ((db.edit (rewrite now params)).contacts.map ContactPoint.id).Nodup :=
      (pkey_edit rewrite_keeps.id).symm ▸ hvalid.pkey
    rw [primaryUnique_iff hpkey]
    simp only [Db.edit, List.forall_mem_map, rewrite_keeps.id]
    intro one hone two htwo userID contactType hlive hlive'
    -- The written row is only in the index with no other row of its user and type there.
    by_cases hone' : one.id = params.id
    · by_cases htwo' : two.id = params.id
      · rw [hone', htwo']
      · rw [rewrite_of_ne htwo'] at hlive'
        obtain ⟨hprimary, rfl, rfl⟩ := rewrite_live hone' hlive
        rw [hother one hone hone'] at hlive'
        exact absurd hlive' (hindex hprimary two htwo htwo')
    · rw [rewrite_of_ne hone'] at hlive
      by_cases htwo' : two.id = params.id
      · obtain ⟨hprimary, rfl, rfl⟩ := rewrite_live htwo' hlive'
        rw [hother two htwo htwo'] at hlive
        exact absurd hlive (hindex hprimary one hone hone')
      · rw [rewrite_of_ne htwo'] at hlive'
        exact (primaryUnique_iff hvalid.pkey).mp hvalid.primary one hone two htwo _ _ hlive hlive'

end Db

/-- A contact that the transaction of a creation wrote. -/
theorem wrote_of_create {now : Nat} {id : Uuid} {params : CreateContactParams} {found after : Db}
    {clearPrimary : Bool} {out : Contact} (hvalid : found.Valid) (hnil : found.NoNil)
    (hid : id ≠ Uuid.nil)
    (hrow : createContactRow now id params
      (found.cleared now clearPrimary params.userID params.contactType Uuid.nil) =
        .ok (out, after)) :
    Wrote now id params.isPrimary out found after := by
  obtain ⟨htype, hkey, hindex, huser, hactor, rfl, rfl⟩ := createContactRow_ok hrow
  have hcleared := cleared_valid now clearPrimary params.userID params.contactType Uuid.nil hvalid
  refine ⟨hcleared.create htype hkey hindex huser hactor, ?_,
    ⟨Db.newContact now id params, ?_, rfl, rfl, rfl⟩, ?_⟩
  · have hclearedNil :=
      cleared_noNil now clearPrimary params.userID params.contactType Uuid.nil hnil
    simp only [Db.NoNil, Db.insert, List.forall_mem_append, List.forall_mem_singleton]
    exact ⟨hclearedNil, fun _ => hid⟩
  · exact Db.contactWith_insert (Db.newContact now id params) hkey
  · intro other hne
    rw [Db.contactWith_insert_of_ne (Db.newContact now id params) hne]
    exact cleared_contactWith now clearPrimary params.userID params.contactType Uuid.nil other

/-- A contact that the transaction of an update wrote. The owner was read before. -/
theorem wrote_of_update {now : Nat} {userID : Uuid} {contactType : String}
    {params : UpdateContactParams} {found after : Db} {clearPrimary : Bool} {out : Contact}
    (hvalid : found.Valid) (hnil : found.NoNil)
    (howner : ∀ owner ∈ found.owner params.id, owner = (userID, contactType))
    (hrow : updateContactRow now params
      (found.cleared now clearPrimary userID contactType params.id) = .ok (out, after)) :
    Wrote now params.id params.isPrimary out found after := by
  obtain ⟨row, hmem, hid, hlive, hindex, hactor, rfl, rfl⟩ := updateContactRow_ok hrow
  have hcleared := cleared_valid now clearPrimary userID contactType params.id hvalid
  have hcontact := (Db.contactWith_eq_some_iff hcleared.pkey params.id row).mpr ⟨hmem, hid⟩
  have hkeeps := @rewrite_keeps now params
  have hrewrite : rewrite now params row = Db.changedContact now params row :=
    if_pos ⟨hid, hlive⟩
  refine ⟨hcleared.update hmem hid hindex hactor,
    (cleared_noNil now clearPrimary userID contactType params.id hnil).edit hkeeps,
    ⟨Db.changedContact now params row, ?_, rfl, hlive, rfl⟩, ?_⟩
  · rw [Db.contactWith_edit hkeeps.id, hcontact, Option.map_some, hrewrite]
  · intro other hne
    have hsame : ((found.cleared now clearPrimary userID contactType params.id).edit
        (rewrite now params)).contactWith other =
        (found.cleared now clearPrimary userID contactType params.id).contactWith other := by
      rw [Db.contactWith_edit hkeeps.id]
      cases hother : (found.cleared now clearPrimary userID contactType params.id).contactWith
          other with
      | none => rfl
      | some row =>
          have hid := ((Db.contactWith_eq_some_iff hcleared.pkey other row).mp hother).2
          rw [Option.map_some, rewrite_of_ne (hid ▸ hne)]
    have hread : (row.userId, row.contactType) = (userID, contactType) := by
      apply howner
      rw [← cleared_owner now clearPrimary userID contactType params.id, Db.owner, hcontact]
      rfl
    obtain ⟨rfl, rfl⟩ := Prod.mk.inj hread
    rw [hsame]
    exact cleared_contactWith now clearPrimary _ _ params.id other

/-- A creation that cleared the former primary contact meets no other one in the index. -/
theorem create_admitted {now : Nat} {id : Uuid} {params : CreateContactParams} {found : Db}
    (hnil : found.NoNil) (hnew : id ∉ found.contacts.map ContactPoint.id) :
    createContactRow now id params (found.cleared now params.isPrimary params.userID
      params.contactType Uuid.nil) ≠ .error .uniqueViolation := by
  intro hrow
  rcases createContactRow_uniqueViolation hrow with hkey | ⟨hprimary, row, hmem, hlive⟩
  · rw [cleared_pkey] at hkey
    exact hnew hkey
  · have hcleared :=
      cleared_noNil now params.isPrimary params.userID params.contactType Uuid.nil hnil
    have hexcluded := cleared_excluded now params.isPrimary params.userID params.contactType
      Uuid.nil hprimary hmem hlive
    exact hcleared row hmem hlive.2.2.1 hexcluded

/-- So does an update. -/
theorem update_admitted {now : Nat} {userID : Uuid} {contactType : String}
    {params : UpdateContactParams} {found : Db} (hvalid : found.Valid)
    (howner : ∀ owner ∈ found.owner params.id, owner = (userID, contactType)) :
    updateContactRow now params
      (found.cleared now params.isPrimary userID contactType params.id) ≠
        .error .uniqueViolation := by
  intro hrow
  obtain ⟨row, hmem, hid, hprimary, other, hother, hne, hlive⟩ :=
    updateContactRow_uniqueViolation hrow
  have hcleared := cleared_valid now params.isPrimary userID contactType params.id hvalid
  have hread : (row.userId, row.contactType) = (userID, contactType) := by
    apply howner
    rw [← cleared_owner now params.isPrimary userID contactType params.id, Db.owner,
      (Db.contactWith_eq_some_iff hcleared.pkey params.id row).mpr ⟨hmem, hid⟩]
    rfl
  obtain ⟨rfl, rfl⟩ := Prod.mk.inj hread
  exact hne (cleared_excluded now params.isPrimary _ _ params.id hprimary hother hlive)

/-! ## Deletions -/

section Delete

variable {now : Nat} {id : Uuid} {updatedBy : Option Uuid} {db after : Db}

/-- What `SoftDeleteContact` does to a row. -/
def retire (now : Nat) (id : Uuid) (updatedBy : Option Uuid) (row : ContactPoint) :
    ContactPoint :=
  if row.id = id ∧ row.deletedAt = none then
    { row with deletedAt := some now, updatedBy := updatedBy, updatedAt := now }
  else row

theorem retire_keeps : Keeps (retire now id updatedBy) := by
  constructor <;> intro row <;> unfold retire <;> split <;> simp

theorem retire_live (row : ContactPoint) (userID : Uuid) (contactType : String)
    (hlive : (retire now id updatedBy row).IsLivePrimary userID contactType) :
    row.IsLivePrimary userID contactType := by
  unfold retire at hlive
  split at hlive
  · simp [ContactPoint.IsLivePrimary] at hlive
  · exact hlive

theorem softDeleteContactRow_ok
    (hrow : softDeleteContactRow now id updatedBy db = .ok ((), after)) :
    after = db.edit (retire now id updatedBy) ∧
      ((∃ row ∈ db.contacts, row.id = id ∧ row.deletedAt = none) → db.ActorKnown updatedBy) := by
  unfold softDeleteContactRow at hrow
  split_ifs at hrow with hactor
  obtain ⟨_, rfl⟩ := Prod.mk.inj (Except.ok.inj hrow)
  refine ⟨rfl, fun hlive => ?_⟩
  by_contra hunknown
  exact hactor ⟨hlive, hunknown⟩

theorem Db.Valid.delete (hvalid : db.Valid)
    (hactor : (∃ row ∈ db.contacts, row.id = id ∧ row.deletedAt = none) →
      db.ActorKnown updatedBy) : (db.edit (retire now id updatedBy)).Valid := by
  apply hvalid.edit retire_keeps
  · intro row hrow user huser
    unfold retire at huser
    split at huser
    next hlive => exact hactor ⟨row, hrow, hlive⟩ user huser
    next => exact hvalid.updatedBy row hrow user huser
  · exact hvalid.primary.edit retire_live

/-- A deletion changes at most its own row. -/
theorem retire_contactWith {other : Uuid} (hne : other ≠ id) :
    (db.edit (retire now id updatedBy)).contactWith other = db.contactWith other := by
  rw [Db.contactWith_edit retire_keeps.id]
  cases hrow : db.contactWith other with
  | none => rfl
  | some row =>
      have hid : row.id = other := by simpa using List.find?_some hrow
      have hother : row.id ≠ id := hid ▸ hne
      rw [Option.map_some, retire, if_neg fun hrow => hother hrow.1]

end Delete

/-! ## Requests -/

namespace Request

/-- The contact that a request is about. -/
def contactID : Request → Uuid
  | .create _ id _ _ _ => id
  | .update _ _ _ contactID _ _ => contactID
  | .delete _ _ _ contactID => contactID

def asksPrimary : Request → Bool
  | .create _ _ _ _ req => req.isPrimary
  | .update _ _ _ _ req _ => req.isPrimary
  | .delete _ _ _ _ => false

def between : Request → List Deletion
  | .update _ _ _ _ _ between => between
  | .create _ _ _ _ _ | .delete _ _ _ _ => []

/-- The table that the transaction of a request finds. -/
def found (request : Request) (before : Db) : Db := afterDeletions request.between before

/-- The database draws an identifier that no row has, and never the one that stands for
none. -/
def Drawn : Request → Db → Prop
  | .create _ id _ _ _, db => id ≠ Uuid.nil ∧ id ∉ db.contacts.map ContactPoint.id
  | .update _ _ _ _ _ _, _ | .delete _ _ _ _, _ => True

instance (request : Request) (db : Db) : Decidable (request.Drawn db) := by
  cases request <;> unfold Drawn <;> infer_instance

end Request

/-- What a request may leave of the table that its transaction finds. -/
structure StepOk (now : Nat) (request : Request) (found : Db) (reply : Reply) (after : Db) :
    Prop where
  unique : after.PrimaryUnique
  admitted : request.asksPrimary = true → reply ≠ .error (.call .uniqueViolation)
  primary : request.asksPrimary = true → ∀ contact, reply = .ok contact →
    ∃ row, after.contactWith request.contactID = some row ∧ contact = some (contactFrom row) ∧
      row.IsLivePrimary row.userId row.contactType ∧
      ∀ other ∈ after.contacts, other.IsLivePrimary row.userId row.contactType → other = row
  others : ∀ other, other ≠ request.contactID →
    after.contactWith other = found.contactWith other ∨
    ∃ row written, found.contactWith other = some row ∧
      after.contactWith request.contactID = some written ∧
      row.IsLivePrimary written.userId written.contactType ∧
      after.contactWith other = some { row with isPrimary := false, updatedAt := now }
  unchanged : ∀ err, reply = .error err → after = found

theorem StepOk.of_error {now : Nat} {request : Request} {found : Db} {err : Err}
    (hvalid : found.Valid) (hadmitted : err ≠ .call .uniqueViolation) :
    StepOk now request found (.error err) found where
  unique := hvalid.primary
  admitted := by simpa using fun _ => hadmitted
  primary := by simp
  others := fun _ _ => Or.inl rfl
  unchanged := fun _ _ => rfl

theorem StepOk.of_wrote {now : Nat} {request : Request} {found after : Db} {contact : Contact}
    (hwrote : Wrote now request.contactID request.asksPrimary contact found after) :
    StepOk now request found (.ok (some contact)) after := by
  obtain ⟨hvalid, _, ⟨row, hrow, rfl, hlive, hprimary⟩, hothers⟩ := hwrote
  refine ⟨hvalid.primary, by simp, ?_, ?_, by simp⟩
  · rintro hasks contact hreply
    have hself : row.IsLivePrimary row.userId row.contactType :=
      ⟨rfl, rfl, hlive, hprimary.trans hasks⟩
    have hmem := ((Db.contactWith_eq_some_iff hvalid.pkey _ row).mp hrow).1
    refine ⟨row, hrow, (Except.ok.inj hreply).symm, hself, ?_⟩
    intro other hother hlive'
    have hid := (Db.primaryUnique_iff hvalid.pkey).mp hvalid.primary other hother row hmem _ _
      hlive' hself
    exact List.inj_on_of_nodup_map hvalid.pkey hother hmem hid
  · intro other hne
    rcases hothers other hne with hsame | ⟨former, hformer, hlive', hcleared⟩
    · exact Or.inl hsame
    · exact Or.inr ⟨former, row, hformer, hrow, hlive', hcleared⟩

section Step

variable {now : Nat} {fails : Stage → Bool} {actorID userID contactID : Uuid} {db : Db}

theorem getContact_ok {existing : Contact} (hread : db.getContact contactID = .ok existing) :
    ∃ row ∈ db.contacts, row.id = contactID ∧ existing = contactFrom row := by
  unfold Db.getContact at hread
  split at hread
  next row hfind =>
    obtain ⟨hmem, hid, _⟩ := findLive_some hfind
    exact ⟨row, hmem, hid, (Except.ok.inj hread).symm⟩
  next => simp at hread

theorem getContact_error {err : CallError} (hread : db.getContact contactID = .error err) :
    err = .noRows := by
  unfold Db.getContact at hread
  split at hread
  · simp at hread
  · exact (Except.error.inj hread).symm

/-- A request that reads a contact goes on with it, or it fails without a write. -/
theorem serve_getContact_cases (moment : Moment) (contactID : Uuid) (db : Db) :
    (∃ err, serve moment (.getContact contactID) db = (.error err, db) ∧
      err ≠ .uniqueViolation) ∨
    ∃ row ∈ db.contacts, row.id = contactID ∧
      serve moment (.getContact contactID) db = (.ok (contactFrom row), db) := by
  by_cases hread : moment.fails .read = true
  · exact Or.inl ⟨.unavailable, by simp [serve, hread], by simp⟩
  · cases hget : db.getContact contactID with
    | error err =>
        refine Or.inl ⟨err, by simp [serve, hread, hget], ?_⟩
        rw [getContact_error hget]
        simp
    | ok existing =>
        obtain ⟨row, hmem, hid, rfl⟩ := getContact_ok hget
        exact Or.inr ⟨row, hmem, hid, by simp [serve, hread, hget]⟩

/-- The reply to a request that comes down to one answer of the repository. -/
def replyOf : Except CallError Contact → Reply
  | .error cause => .error (.call cause)
  | .ok row => .ok (some row)

variable (now fails actorID userID db) in
theorem create_process (id : Uuid) {req : CreateContactRequest}
    (htype : req.contactType ∈ validContactTypes) :
    ∃ params : CreateContactParams, params.userID = userID ∧
      params.isPrimary = req.isPrimary ∧
      process now (.create fails id actorID userID req) db =
        (replyOf (withActor ⟨now, fails⟩
            (Repository.createContact ⟨now, fails⟩ id req.isPrimary params) db).1,
          (withActor ⟨now, fails⟩
            (Repository.createContact ⟨now, fails⟩ id req.isPrimary params) db).2) := by
  refine ⟨{
    userID := userID
    contactType := req.contactType
    label := req.label
    value := req.value
    isPrimary := req.isPrimary
    isPreferred := req.isPreferred
    allowContact := boolOr req.allowContact true
    preferredTimeWindow := req.preferredTimeWindow
    note := req.note
    actor := actorNull actorID }, rfl, rfl, ?_⟩
  simp only [process, Service.createContact, htype, not_true_eq_false, if_false,
    Program.run_bind, Program.run_perform, serve]
  generalize withActor _ _ db = answer
  rcases answer with ⟨err | row, after⟩ <;> rfl

theorem create_step {id : Uuid} {req : CreateContactRequest} {reply : Reply} {after : Db}
    (hvalid : db.Valid) (hnil : db.NoNil)
    (hdrawn : Request.Drawn (.create fails id actorID userID req) db)
    (hprocess : process now (.create fails id actorID userID req) db = (reply, after)) :
    after.Valid ∧ after.NoNil ∧
      StepOk now (.create fails id actorID userID req) db reply after := by
  by_cases htype : req.contactType ∈ validContactTypes
  · obtain ⟨params, rfl, hprimary, heq⟩ := create_process now fails actorID userID db id htype
    rw [heq] at hprocess
    rcases createContact_cases ⟨now, fails⟩ id req.isPrimary params db with
      ⟨err, htx, hcause⟩ | ⟨out, written, htx, hwrite⟩
    · simp only [htx, replyOf] at hprocess
      obtain ⟨rfl, rfl⟩ := Prod.mk.inj hprocess
      refine ⟨hvalid, hnil, .of_error hvalid ?_⟩
      rintro ⟨rfl⟩
      rcases hcause with hcause | hcause
      · simp at hcause
      · rw [← hprimary] at hcause
        exact create_admitted hnil hdrawn.2 hcause
    · simp only [htx, replyOf] at hprocess
      obtain ⟨rfl, rfl⟩ := Prod.mk.inj hprocess
      have hwrote := wrote_of_create hvalid hnil hdrawn.1 hwrite
      rw [hprimary] at hwrote
      exact ⟨hwrote.valid, hwrote.noNil, .of_wrote hwrote⟩
  · have hrejected : process now (.create fails id actorID userID req) db =
        (.error (.validation "invalid contact_type"), db) := by
      simp only [process, Service.createContact, htype, not_false_eq_true, if_true]
      rfl
    obtain ⟨rfl, rfl⟩ := Prod.mk.inj (hrejected.symm.trans hprocess)
    exact ⟨hvalid, hnil, .of_error hvalid (by simp)⟩

/-- A deletion retires its contact, or it fails without a write. -/
theorem processDelete_cases (moment : Moment) (actorID userID contactID : Uuid) (db : Db) :
    (∃ err, processDelete moment actorID userID contactID db = (.error err, db)) ∨
    ((∃ row ∈ db.contacts, row.id = contactID ∧ row.deletedAt = none) →
        db.ActorKnown (actorNull actorID)) ∧
      processDelete moment actorID userID contactID db =
        (.ok none, db.edit (retire moment.now contactID (actorNull actorID))) := by
  rcases serve_getContact_cases moment contactID db with ⟨err, hread, _⟩ | ⟨row, _, _, hread⟩
  · left
    simp only [processDelete, Service.deleteContact, Program.run_bind, Program.run_perform, hread]
    cases err <;> exact ⟨_, rfl⟩
  · by_cases howner : (contactFrom row).userId ≠ userID
    · refine Or.inl ⟨.notFound "contact", ?_⟩
      simp only [processDelete, Service.deleteContact, Program.run_bind, Program.run_perform,
        hread, howner, not_false_eq_true, ne_eq, if_true]
      rfl
    · simp only [processDelete, Service.deleteContact, Program.run_bind, Program.run_perform,
        hread, howner, if_false]
      simp only [serve]
      rcases withActor_cases moment (Repository.softDeleteContact moment contactID
        (actorNull actorID)) db with ⟨err, htx, _⟩ | ⟨_, after, htx, hbody⟩
      · left
        rw [htx]
        exact ⟨.call err, rfl⟩
      · right
        rw [htx]
        obtain ⟨rfl, hactor⟩ := softDeleteContactRow_ok (statement_ok hbody)
        exact ⟨hactor, rfl⟩

theorem delete_step {reply : Reply} {after : Db} (hvalid : db.Valid) (hnil : db.NoNil)
    (hprocess : process now (.delete fails actorID userID contactID) db = (reply, after)) :
    after.Valid ∧ after.NoNil ∧
      StepOk now (.delete fails actorID userID contactID) db reply after := by
  rcases processDelete_cases ⟨now, fails⟩ actorID userID contactID db with
    ⟨err, heq⟩ | ⟨hactor, heq⟩
  · obtain ⟨rfl, rfl⟩ := Prod.mk.inj (heq.symm.trans hprocess)
    exact ⟨hvalid, hnil, hvalid.primary, by simp [Request.asksPrimary],
      by simp [Request.asksPrimary], fun _ _ => Or.inl rfl, fun _ _ => rfl⟩
  · obtain ⟨rfl, rfl⟩ := Prod.mk.inj (heq.symm.trans hprocess)
    have hafter : (db.edit (retire now contactID (actorNull actorID))).Valid :=
      hvalid.delete hactor
    exact ⟨hafter, hnil.edit retire_keeps, hafter.primary, by simp [Request.asksPrimary],
      by simp [Request.asksPrimary], fun other hne => Or.inl (retire_contactWith hne), by simp⟩

theorem deletion_process (deletion : Deletion) (db : Db) :
    process deletion.moment.now deletion.request db =
      ((deletion.process db).1, (deletion.process db).2) := rfl

theorem deletion_owner (deletion : Deletion) (db : Db) (id : Uuid) :
    (deletion.process db).2.owner id = db.owner id := by
  rcases processDelete_cases deletion.moment deletion.actorID deletion.userID deletion.contactID db
    with ⟨err, heq⟩ | ⟨_, heq⟩
  · rw [Deletion.process, heq]
  · rw [Deletion.process, heq]
    exact Db.owner_edit retire_keeps id

/-- Deletions leave every contact with its owner. -/
theorem afterDeletions_owner (deletions : List Deletion) (db : Db) (id : Uuid) :
    (afterDeletions deletions db).owner id = db.owner id := by
  unfold afterDeletions
  induction deletions generalizing db with
  | nil => rfl
  | cons deletion rest ih =>
      rw [List.foldl_cons, ih]
      exact deletion_owner deletion db id

theorem afterDeletions_valid (deletions : List Deletion) (hvalid : db.Valid) (hnil : db.NoNil) :
    (afterDeletions deletions db).Valid ∧ (afterDeletions deletions db).NoNil := by
  unfold afterDeletions
  induction deletions generalizing db with
  | nil => exact ⟨hvalid, hnil⟩
  | cons deletion rest ih =>
      obtain ⟨hnext, hnextNil, _⟩ := delete_step hvalid hnil (deletion_process deletion db)
      exact ih hnext hnextNil

variable (now fails actorID userID contactID) in
/-- An update goes on with the owner that it read, after the deletions in between. -/
theorem update_process (req : UpdateContactRequest) (deletions : List Deletion) (db : Db) :
    (∃ err, err ≠ .call .uniqueViolation ∧
      process now (.update fails actorID userID contactID req deletions) db =
        (.error err, afterDeletions deletions db)) ∨
    ∃ row ∈ db.contacts, row.id = contactID ∧
      ∃ params : UpdateContactParams, params.id = contactID ∧ params.isPrimary = req.isPrimary ∧
      process now (.update fails actorID userID contactID req deletions) db =
        (replyOf (withActor ⟨now, fails⟩ (Repository.updateContact ⟨now, fails⟩
            (contactFrom row).userId (contactFrom row).contactType req.isPrimary params)
            (afterDeletions deletions db)).1,
          (withActor ⟨now, fails⟩ (Repository.updateContact ⟨now, fails⟩
            (contactFrom row).userId (contactFrom row).contactType req.isPrimary params)
            (afterDeletions deletions db)).2) := by
  rcases serve_getContact_cases ⟨now, fails⟩ contactID db with
    ⟨err, hread, hadmitted⟩ | ⟨row, hrow, hid, hread⟩
  · left
    simp only [process, Service.updateContact, Program.runInterrupted_perform, hread]
    cases err <;> first | exact absurd rfl hadmitted | exact ⟨_, by simp, rfl⟩
  · by_cases howner : (contactFrom row).userId ≠ userID
    · refine Or.inl ⟨.notFound "contact", by simp, ?_⟩
      simp only [process, Service.updateContact, Program.runInterrupted_perform, hread, howner,
        not_false_eq_true, ne_eq, if_true]
      rfl
    · refine Or.inr ⟨row, hrow, hid,
        Service.updateParams actorID contactID req (contactFrom row), rfl, rfl, ?_⟩
      simp only [process, Service.updateContact, Program.runInterrupted_perform, hread, howner,
        if_false, Program.run_bind, Program.run_perform]
      simp only [serve]
      generalize withActor _ _ (afterDeletions deletions db) = answer
      rcases answer with ⟨err | row, after⟩ <;> rfl

theorem update_step {req : UpdateContactRequest} {deletions : List Deletion} {reply : Reply}
    {after : Db} (hvalid : db.Valid) (hnil : db.NoNil)
    (hprocess : process now (.update fails actorID userID contactID req deletions) db =
      (reply, after)) :
    after.Valid ∧ after.NoNil ∧
      StepOk now (.update fails actorID userID contactID req deletions)
        (afterDeletions deletions db) reply after := by
  obtain ⟨hfound, hfoundNil⟩ := afterDeletions_valid deletions hvalid hnil
  rcases update_process now fails actorID userID contactID req deletions db with
    ⟨err, hadmitted, heq⟩ | ⟨row, hrow, hid, params, rfl, hprimary, heq⟩
  · obtain ⟨rfl, rfl⟩ := Prod.mk.inj (heq.symm.trans hprocess)
    exact ⟨hfound, hfoundNil, .of_error hfound hadmitted⟩
  · -- The contact can be gone by now. If it is not, it has the owner that was read.
    have howner : ∀ owner ∈ (afterDeletions deletions db).owner params.id,
        owner = ((contactFrom row).userId, (contactFrom row).contactType) := by
      rw [afterDeletions_owner, Db.owner,
        (Db.contactWith_eq_some_iff hvalid.pkey params.id row).mpr ⟨hrow, hid⟩]
      intro owner howner
      exact (Option.some.inj howner).symm
    rw [heq] at hprocess
    rcases updateContact_cases ⟨now, fails⟩ (contactFrom row).userId (contactFrom row).contactType
        req.isPrimary params (afterDeletions deletions db) with
      ⟨err, htx, hcause⟩ | ⟨out, written, htx, hwrite⟩
    · simp only [htx, replyOf] at hprocess
      obtain ⟨rfl, rfl⟩ := Prod.mk.inj hprocess
      refine ⟨hfound, hfoundNil, .of_error hfound ?_⟩
      rintro ⟨rfl⟩
      rcases hcause with hcause | hcause
      · simp at hcause
      · rw [← hprimary] at hcause
        exact update_admitted hfound howner hcause
    · simp only [htx, replyOf] at hprocess
      obtain ⟨rfl, rfl⟩ := Prod.mk.inj hprocess
      have hwrote := wrote_of_update hfound hfoundNil howner hwrite
      rw [hprimary] at hwrote
      exact ⟨hwrote.valid, hwrote.noNil, .of_wrote hwrote⟩

/-- Every request keeps the constraints of the table, and leaves only what it may. -/
theorem process_step {request : Request} {reply : Reply} {after : Db} (hvalid : db.Valid)
    (hnil : db.NoNil) (hdrawn : request.Drawn db)
    (hprocess : process now request db = (reply, after)) :
    after.Valid ∧ after.NoNil ∧ StepOk now request (request.found db) reply after := by
  cases request with
  | create fails id actorID userID req => exact create_step hvalid hnil hdrawn hprocess
  | update fails actorID userID contactID req deletions =>
      exact update_step hvalid hnil hprocess
  | delete fails actorID userID contactID => exact delete_step hvalid hnil hprocess

end Step

/-! ## Runs -/

theorem afterDeletions_append (earlier : List Deletion) (deletion : Deletion) (db : Db) :
    afterDeletions (earlier ++ [deletion]) db =
      (deletion.process (afterDeletions earlier db)).2 := by
  simp [afterDeletions]

/-- The deletions in between keep to what a request may do. -/
theorem between_stepOk {db : Db} (hvalid : db.Valid) (hnil : db.NoNil) (earlier : List Deletion)
    (deletion : Deletion) :
    StepOk deletion.moment.now deletion.request (afterDeletions earlier db)
      (deletion.process (afterDeletions earlier db)).1
      (afterDeletions (earlier ++ [deletion]) db) := by
  obtain ⟨hfound, hfoundNil⟩ := afterDeletions_valid earlier hvalid hnil
  rw [afterDeletions_append]
  exact (delete_step hfound hfoundNil (deletion_process deletion _)).2.2

/-- The entry of a request in a history. -/
def entryOf (now : Nat) (request : Request) (db : Db) : ContactEntry :=
  ⟨db, now, request, (process now request db).1, (process now request db).2⟩

variable {start last : Db} {history : List ContactEntry}

theorem ContactRun.next (hrun : ContactRun start history last) (now : Nat) (request : Request) :
    ContactRun start (entryOf now request last :: history) (entryOf now request last).after :=
  Serial.cons now request hrun trivial

theorem ContactRun.valid (hvalid : start.Valid) (hnil : start.NoNil)
    (hrun : ContactRun start history last)
    (hdrawn : ∀ entry ∈ history, entry.request.Drawn entry.before) :
    last.Valid ∧ last.NoNil := by
  induction hrun with
  | nil => exact ⟨hvalid, hnil⟩
  | cons now request hhistory _ ih =>
      obtain ⟨hbefore, hbeforeNil⟩ := ih fun entry hentry =>
        hdrawn entry (List.mem_cons_of_mem _ hentry)
      obtain ⟨hafter, hafterNil, _⟩ := process_step hbefore hbeforeNil
        (hdrawn _ List.mem_cons_self) rfl
      exact ⟨hafter, hafterNil⟩

/-- From any table that satisfies the schema and in which no live contact has the nil
identifier, every request of every run keeps one primary contact for a user and a type,
makes its contact that one if it is to, and changes nothing else. -/
theorem primary_contacts (hvalid : start.Valid) (hnil : start.NoNil)
    (hrun : ContactRun start history last)
    (hdrawn : ∀ entry ∈ history, entry.request.Drawn entry.before) :
    ∀ entry ∈ history,
      StepOk entry.instant entry.request (entry.request.found entry.before) entry.reply
        entry.after ∧
      ∀ earlier deletion later, entry.request.between = earlier ++ deletion :: later →
        StepOk deletion.moment.now deletion.request (afterDeletions earlier entry.before)
          (deletion.process (afterDeletions earlier entry.before)).1
          (afterDeletions (earlier ++ [deletion]) entry.before) := by
  intro entry hentry
  obtain ⟨later, earlier, hsplit⟩ := List.append_of_mem hentry
  obtain ⟨hearlier, _, hprocess⟩ := hrun.entry hsplit
  have hsuffix : ∀ old ∈ earlier, old.request.Drawn old.before := by
    intro old hold
    apply hdrawn
    rw [hsplit]
    exact List.mem_append_right _ (List.mem_cons_of_mem _ hold)
  obtain ⟨hbefore, hbeforeNil⟩ := ContactRun.valid hvalid hnil hearlier hsuffix
  exact ⟨(process_step hbefore hbeforeNil (hdrawn entry hentry) hprocess).2.2,
    fun earlier deletion _ _ => between_stepOk hbefore hbeforeNil earlier deletion⟩

/-! ## Samples -/

/-- A live email contact of user 7. -/
def sampleContact (id : Uuid) : ContactPoint where
  id := id
  userId := 7
  contactType := "email"
  label := none
  value := "a@b.de"
  isPrimary := true
  isPreferred := false
  allowContact := true
  preferredTimeWindow := none
  verifiedAt := none
  note := none
  createdAt := 1
  updatedAt := 1
  deletedAt := none
  createdBy := none
  updatedBy := none

def sampleDb (id : Uuid) : Db := ⟨[7], [sampleContact id]⟩

theorem sampleDb_valid (id : Uuid) : (sampleDb id).Valid where
  pkey := by simp [sampleDb]
  contactType := by simp [sampleDb, sampleContact, contactTypes]
  user := by simp [sampleDb, sampleContact]
  createdBy := by simp [sampleDb, sampleContact]
  updatedBy := by simp [sampleDb, sampleContact]
  primary := by simp [Db.PrimaryUnique, sampleDb]

theorem sampleDb_noNil : (sampleDb 1).NoNil := by
  simp [Db.NoNil, sampleDb, sampleContact, Uuid.nil]

/-- The creation of a primary email contact of user 7. -/
def sampleCreate : Request :=
  .create (fun _ => false) 2 7 7
    { contactType := "email"
      label := none
      value := "c@d.de"
      isPrimary := true
      isPreferred := false
      allowContact := none
      preferredTimeWindow := none
      note := none }

/-- An update that is to make contact 1 primary again, which is deleted in the meantime. -/
def sampleUpdate : Request :=
  .update (fun _ => false) 7 7 1
    { label := none
      value := "a@b.de"
      isPrimary := true
      isPreferred := false
      allowContact := none
      preferredTimeWindow := none
      note := none }
    [⟨⟨15, fun _ => false⟩, 7, 7, 1⟩]

def sampleHistory : List ContactEntry :=
  [entryOf 20 sampleUpdate (entryOf 10 sampleCreate (sampleDb 1)).after,
    entryOf 10 sampleCreate (sampleDb 1)]

theorem sampleHistory_run : ContactRun (sampleDb 1) sampleHistory
    (entryOf 20 sampleUpdate (entryOf 10 sampleCreate (sampleDb 1)).after).after :=
  (ContactRun.next .nil 10 sampleCreate).next 20 sampleUpdate

/-- The creation takes the flag from contact 1. The update then finds contact 1 gone, and
contact 2 keeps the flag. -/
theorem primary_contacts_sample :
    (sampleHistory.map fun entry => entry.after.contacts.map fun row =>
      (row.id, row.isPrimary, row.deletedAt)) =
        [[(1, false, some 15), (2, true, none)], [(1, false, none), (2, true, none)]] ∧
    ∀ entry ∈ sampleHistory,
      StepOk entry.instant entry.request (entry.request.found entry.before) entry.reply
        entry.after ∧
      ∀ earlier deletion later, entry.request.between = earlier ++ deletion :: later →
        StepOk deletion.moment.now deletion.request (afterDeletions earlier entry.before)
          (deletion.process (afterDeletions earlier entry.before)).1
          (afterDeletions (earlier ++ [deletion]) entry.before) :=
  ⟨by decide,
    primary_contacts (sampleDb_valid 1) sampleDb_noNil sampleHistory_run (by decide)⟩

/-- The clearing spares a contact that has the nil identifier, and the new primary contact
then meets it in the index. -/
theorem nil_primary_refused :
    (sampleDb Uuid.nil).Valid ∧ sampleCreate.Drawn (sampleDb Uuid.nil) ∧
      ContactRun (sampleDb Uuid.nil) [entryOf 10 sampleCreate (sampleDb Uuid.nil)]
        (entryOf 10 sampleCreate (sampleDb Uuid.nil)).after ∧
      sampleCreate.asksPrimary = true ∧
      (process 10 sampleCreate (sampleDb Uuid.nil)).1 = .error (.call .uniqueViolation) :=
  ⟨sampleDb_valid Uuid.nil, by decide, ContactRun.next .nil 10 sampleCreate, by decide,
    by decide⟩

end Skolva.Crm
