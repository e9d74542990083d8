import Skolva.Crm.Schema
import Skolva.Effect.History
import Skolva.Effect.Program

/-! # The contacts of the crm module

The contact methods of the repository, each one transaction, and of the service.
-/

namespace Skolva.Crm

open Dbexec Effect

/-! ## The repository -/

namespace Repository

def createContact (moment : Moment) (id : Uuid) (clearPrimary : Bool)
    (params : CreateContactParams) : Tx Contact := do
  if clearPrimary then
    Tx.statement moment .clear
      (clearPrimaryContacts moment.now params.userID params.contactType Uuid.nil)
  Tx.statement moment .write (createContactRow moment.now id params)

def updateContact (moment : Moment) (userID : Uuid) (contactType : String) (clearPrimary : Bool)
    (params : UpdateContactParams) : Tx Contact := do
  if clearPrimary then
    Tx.statement moment .clear (clearPrimaryContacts moment.now userID contactType params.id)
  Tx.statement moment .write (updateContactRow moment.now params)

def softDeleteContact (moment : Moment) (id : Uuid) (updatedBy : Option Uuid) : Tx Unit :=
  Tx.statement moment .write (softDeleteContactRow moment.now id updatedBy)

end Repository

/-- A call of the repository. The actor of a transaction is only seen by the audit
trigger. -/
inductive Op where
  | getContact (id : Uuid)
  | createContact (actorID id : Uuid) (clearPrimary : Bool) (params : CreateContactParams)
  | updateContact (actorID userID : Uuid) (contactType : String) (clearPrimary : Bool)
      (params : UpdateContactParams)
  | softDeleteContact (actorID id : Uuid) (updatedBy : Option Uuid)

def Op.Resp : Op → Type
  | .getContact _ | .createContact _ _ _ _ | .updateContact _ _ _ _ _ => Except CallError Contact
  | .softDeleteContact _ _ _ => Except CallError Unit

/-- The answer of the repository. -/
def serve (moment : Moment) : (op : Op) → Db → op.Resp × Db
  | .getContact id, db =>
      (if moment.fails .read then .error .unavailable else db.getContact id, db)
  | .createContact _ id clearPrimary params, db =>
      withActor moment (Repository.createContact moment id clearPrimary params) db
  | .updateContact _ userID contactType clearPrimary params, db =>
      withActor moment (Repository.updateContact moment userID contactType clearPrimary params) db
  | .softDeleteContact _ id updatedBy, db =>
      withActor moment (Repository.softDeleteContact moment id updatedBy) db

/-! ## The service -/

inductive Err where
  | notFound (what : String)
  | validation (message : String)
  | call (cause : CallError)
  deriving DecidableEq

abbrev Prog (α : Type) := Program Moment Op Op.Resp α

structure CreateContactRequest where
  contactType : String
  label : Option String
  value : String
  isPrimary : Bool
  isPreferred : Bool
  allowContact : Option Bool
  preferredTimeWindow : Option String
  note : Option String

structure UpdateContactRequest where
  label : Option String
  value : String
  isPrimary : Bool
  isPreferred : Bool
  allowContact : Option Bool
  preferredTimeWindow : Option String
  note : Option String

def validContactTypes : List String := ["email", "phone", "mobile", "fax", "website", "other"]

def boolOr (p : Option Bool) (default : Bool) : Bool := p.getD default

/-- `uuid.NullUUID{UUID: id, Valid: id != uuid.Nil}`. -/
def actorNull (id : Uuid) : Option Uuid := if id = Uuid.nil then none else some id

namespace Service

/-- The database draws the identifier of the new row. -/
def createContact (id actorID userID : Uuid) (req : CreateContactRequest) :
    Prog (Except Err Contact) := do
  if req.contactType ∉ validContactTypes then
    return .error (.validation "invalid contact_type")
  else
    match ← Program.perform (Op.createContact actorID id req.isPrimary
      { userID := userID
        contactType := req.contactType
        label := req.label
        value := req.value
        isPrimary := req.isPrimary
        isPreferred := req.isPreferred
        allowContact := boolOr req.allowContact true
        preferredTimeWindow := req.preferredTimeWindow
        note := req.note
        actor := actorNull actorID }) with
    | .error cause => return .error (.call cause)
    | .ok row => return .ok row

/-- The parameters of the update of a contact that has been read. -/
def updateParams (actorID contactID : Uuid) (req : UpdateContactRequest) (existing : Contact) :
    UpdateContactParams where
  id := contactID
  label := req.label
  value := req.value
  isPrimary := req.isPrimary
  isPreferred := req.isPreferred
  allowContact := boolOr req.allowContact existing.allowContact
  preferredTimeWindow := req.preferredTimeWindow
  note := req.note
  updatedBy := actorNull actorID

def updateContact (actorID userID contactID : Uuid) (req : UpdateContactRequest) :
    Prog (Except Err Contact) := do
  match ← Program.perform (Op.getContact contactID) with
  | .error .noRows => return .error (.notFound "contact")
  | .error cause => return .error (.call cause)
  | .ok existing =>
      if existing.userId ≠ userID then
        return .error (.notFound "contact")
      else
        match ← Program.perform (Op.updateContact actorID existing.userId existing.contactType
          req.isPrimary (updateParams actorID contactID req existing)) with
        | .error cause => return .error (.call cause)
        | .ok row => return .ok row

def deleteContact (actorID userID contactID : Uuid) : Prog (Except Err Unit) := do
  match ← Program.perform (Op.getContact contactID) with
  | .error .noRows => return .error (.notFound "contact")
  | .error cause => return .error (.call cause)
  | .ok existing =>
      if existing.userId ≠ userID then
        return .error (.notFound "contact")
      else
        match ← Program.perform (Op.softDeleteContact actorID contactID (actorNull actorID)) with
        | .error cause => return .error (.call cause)
        | .ok _ => return .ok ()

end Service

/-! ## Requests -/

/-- A request that soft-deletes a contact. -/
structure Deletion where
  moment : Moment
  actorID : Uuid
  userID : Uuid
  contactID : Uuid

/-- A request, with the statements of it that fail. Between the reading of an update and its
transaction, other requests can delete contacts. -/
inductive Request where
  | create (fails : Stage → Bool) (id actorID userID : Uuid) (req : CreateContactRequest)
  | update (fails : Stage → Bool) (actorID userID contactID : Uuid) (req : UpdateContactRequest)
      (between : List Deletion)
  | delete (fails : Stage → Bool) (actorID userID contactID : Uuid)

abbrev Reply := Except Err (Option Contact)

def Deletion.request (deletion : Deletion) : Request :=
  .delete deletion.moment.fails deletion.actorID deletion.userID deletion.contactID

def processDelete (moment : Moment) (actorID userID contactID : Uuid) (db : Db) : Reply × Db :=
  let (reply, after) := (Service.deleteContact actorID userID contactID).run serve moment db
  (reply.map fun _ => none, after)

def Deletion.process (deletion : Deletion) (db : Db) : Reply × Db :=
  processDelete deletion.moment deletion.actorID deletion.userID deletion.contactID db

def afterDeletions (deletions : List Deletion) (db : Db) : Db :=
  deletions.foldl (fun db deletion => (deletion.process db).2) db

def process (now : Nat) : Request → Db → Reply × Db
  | .create fails id actorID userID req, db =>
      let (reply, after) := (Service.createContact id actorID userID req).run serve ⟨now, fails⟩ db
      (reply.map some, after)
  | .update fails actorID userID contactID req between, db =>
      let (reply, after) := (Service.updateContact actorID userID contactID req).runInterrupted
        serve ⟨now, fails⟩ (afterDeletions between) db
      (reply.map some, after)
  | .delete fails actorID userID contactID, db =>
      processDelete ⟨now, fails⟩ actorID userID contactID db

abbrev ContactEntry := Entry Request Reply Db

/-- Serial runs of requests. -/
def ContactRun (start : Db) : List ContactEntry → Db → Prop :=
  Serial process (fun _ _ _ => True) start

end Skolva.Crm
