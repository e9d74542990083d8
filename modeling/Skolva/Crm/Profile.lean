import Skolva.Crm.Contacts
import Mathlib.Data.String.Basic

/-! # Addresses, preferences, and the list of contacts

The tables `user_address` and `user_preferences`, the queries of `crm.sql`, and the methods
of the service that make one query each. As in the other tables, no text has a U+0000: PostgreSQL
refuses it.
-/

namespace Skolva.Crm

open Dbexec Effect

/-! ## Rows -/

/-- A row of `user_address`. -/
structure UserAddress where
  userId : Uuid
  company : Option String
  careOf : Option String
  street1 : String
  street2 : Option String
  postalCode : String
  city : String
  state : Option String
  countryCode : String
  note : Option String
  createdAt : Nat
  updatedAt : Nat
  createdBy : Option Uuid
  updatedBy : Option Uuid
  deriving DecidableEq

/-- The columns that the queries return, and the API shows. -/
structure Address where
  userId : Uuid
  company : Option String
  careOf : Option String
  street1 : String
  street2 : Option String
  postalCode : String
  city : String
  state : Option String
  countryCode : String
  note : Option String
  createdAt : Nat
  updatedAt : Nat
  deriving DecidableEq

def addressFrom (row : UserAddress) : Address where
  userId := row.userId
  company := row.company
  careOf := row.careOf
  street1 := row.street1
  street2 := row.street2
  postalCode := row.postalCode
  city := row.city
  state := row.state
  countryCode := row.countryCode
  note := row.note
  createdAt := row.createdAt
  updatedAt := row.updatedAt

/-- A row of `user_preferences`. -/
structure UserPreferences where
  userId : Uuid
  preferredContactType : Option String
  note : Option String
  updatedAt : Nat
  updatedBy : Option Uuid
  deriving DecidableEq

structure Preferences where
  userId : Uuid
  preferredContactType : Option String
  note : Option String
  updatedAt : Nat
  deriving DecidableEq

def preferencesFrom (row : UserPreferences) : Preferences where
  userId := row.userId
  preferredContactType := row.preferredContactType
  note := row.note
  updatedAt := row.updatedAt

/-- The tables of the module, with the identifiers in `users` that they refer to. -/
structure ProfileDb where
  users : List Uuid
  contacts : List ContactPoint
  addresses : List UserAddress
  preferences : List UserPreferences

/-! ## Queries -/

/-- The CHECK on `country_code`, `'^[A-Z]{2}$'`. -/
def countryCodeCheck (code : String) : Prop :=
  code.toList.length = 2 ∧ ∀ letter ∈ code.toList, 'A' ≤ letter ∧ letter ≤ 'Z'

instance (code : String) : Decidable (countryCodeCheck code) :=
  inferInstanceAs (Decidable (_ ∧ _))

/-- The CHECK on `preferred_contact_type`. -/
def preferredContactTypes : List String := ["email", "phone", "mobile", "postal", "other"]

/-- The parameters of `UpsertUserAddress`. -/
structure UpsertAddressParams where
  userID : Uuid
  company : Option String
  careOf : Option String
  street1 : String
  street2 : Option String
  postalCode : String
  city : String
  state : Option String
  countryCode : String
  note : Option String
  actor : Option Uuid
  deriving DecidableEq

/-- The parameters of `UpsertUserPreferences`. -/
structure UpsertPreferencesParams where
  userID : Uuid
  preferredContactType : Option String
  note : Option String
  actor : Option Uuid
  deriving DecidableEq

namespace ProfileDb

variable (db : ProfileDb)

/-- The foreign keys of a row of the user, written by the actor. -/
def ReferencesKnown (userID : Uuid) (actor : Option Uuid) : Prop :=
  userID ∈ db.users ∧ ∀ user ∈ actor, user ∈ db.users

instance (userID : Uuid) (actor : Option Uuid) : Decidable (db.ReferencesKnown userID actor) :=
  inferInstanceAs (Decidable (_ ∧ _))

def addressOf (userID : Uuid) : Option UserAddress :=
  db.addresses.find? fun row => row.userId = userID

def preferencesOf (userID : Uuid) : Option UserPreferences :=
  db.preferences.find? fun row => row.userId = userID

/-- `ORDER BY contact_type, created_at, id`, in the order of code points. -/
def contactOrder (one other : ContactPoint) : Bool :=
  one.contactType < other.contactType || one.contactType = other.contactType &&
    (one.createdAt < other.createdAt || one.createdAt = other.createdAt && one.id ≤ other.id)

/-- The query `ListContacts`. -/
def listContacts (userID : Uuid) : List Contact :=
  let live := db.contacts.filter fun row => row.userId = userID ∧ row.deletedAt = none
  (live.mergeSort contactOrder).map contactFrom

variable {db} in
theorem listContacts_eq_nil_iff {userID : Uuid} : db.listContacts userID = [] ↔
    ∀ row ∈ db.contacts, row.userId = userID → row.deletedAt ≠ none := by
  rw [listContacts, List.map_eq_nil_iff, ← List.length_eq_zero_iff, List.length_mergeSort,
    List.length_eq_zero_iff, List.filter_eq_nil_iff]
  simp

end ProfileDb

/-- The row after `INSERT .. ON CONFLICT (user_id) DO UPDATE`, with the stamp of the trigger
`set_updated_at`. -/
def UpsertAddressParams.row (params : UpsertAddressParams) (now : Nat)
    (existing : Option UserAddress) : UserAddress where
  userId := params.userID
  company := params.company
  careOf := params.careOf
  street1 := params.street1
  street2 := params.street2
  postalCode := params.postalCode
  city := params.city
  state := params.state
  countryCode := params.countryCode
  note := params.note
  createdAt := (existing.map UserAddress.createdAt).getD now
  updatedAt := now
  createdBy := (existing.map UserAddress.createdBy).getD params.actor
  updatedBy := params.actor

def UpsertPreferencesParams.row (params : UpsertPreferencesParams) (now : Nat) :
    UserPreferences where
  userId := params.userID
  preferredContactType := params.preferredContactType
  note := params.note
  updatedAt := now
  updatedBy := params.actor

namespace ProfileDb

variable (now : Nat) (db : ProfileDb)

/-- The query `UpsertUserAddress`. -/
def upsertAddress (params : UpsertAddressParams) : Except CallError Address × ProfileDb :=
  let row := params.row now (db.addressOf params.userID)
  if ¬countryCodeCheck params.countryCode then (.error .checkViolation, db)
  else if db.ReferencesKnown params.userID params.actor then
    (.ok (addressFrom row),
      { db with addresses := db.addresses.filter (fun other => other.userId ≠ params.userID) ++
          [row] })
  else (.error .foreignKeyViolation, db)

/-- The query `UpsertUserPreferences`. -/
def upsertPreferences (params : UpsertPreferencesParams) :
    Except CallError Preferences × ProfileDb :=
  let row := params.row now
  if ∃ type ∈ params.preferredContactType, type ∉ preferredContactTypes then
    (.error .checkViolation, db)
  else if db.ReferencesKnown params.userID params.actor then
    (.ok (preferencesFrom row),
      { db with preferences :=
          db.preferences.filter (fun other => other.userId ≠ params.userID) ++ [row] })
  else (.error .foreignKeyViolation, db)

/-- A value that the CHECK admits is written, unless a foreign key is unknown. -/
theorem upsertAddress_of_check (params : UpsertAddressParams)
    (hcheck : countryCodeCheck params.countryCode) :
    db.upsertAddress now params = (.error .foreignKeyViolation, db) ∨
    ∃ address after, db.upsertAddress now params = (.ok address, after) ∧
      params.row now (db.addressOf params.userID) ∈ after.addresses := by
  unfold upsertAddress
  dsimp only
  rw [if_neg (not_not.mpr hcheck)]
  split
  · exact Or.inr ⟨_, _, rfl, List.mem_append_right _ (List.mem_singleton_self _)⟩
  · exact Or.inl rfl

theorem upsertPreferences_of_check (params : UpsertPreferencesParams)
    (hcheck : ∀ type ∈ params.preferredContactType, type ∈ preferredContactTypes) :
    db.upsertPreferences now params = (.error .foreignKeyViolation, db) ∨
    ∃ preferences after, db.upsertPreferences now params = (.ok preferences, after) ∧
      params.row now ∈ after.preferences := by
  unfold upsertPreferences
  dsimp only
  rw [if_neg (by simpa using hcheck)]
  split
  · exact Or.inr ⟨_, _, rfl, List.mem_append_right _ (List.mem_singleton_self _)⟩
  · exact Or.inl rfl

end ProfileDb

/-- A look-up that reports `ErrNoRows` where it selects nothing. -/
def one {α : Type} : Option α → Except CallError α
  | some row => .ok row
  | none => .error .noRows

inductive ProfileOp where
  | getAddress (userID : Uuid)
  | upsertAddress (params : UpsertAddressParams)
  | getPreferences (userID : Uuid)
  | upsertPreferences (params : UpsertPreferencesParams)
  | listContacts (userID : Uuid)

abbrev ProfileOp.Resp : ProfileOp → Type
  | .getAddress _ | .upsertAddress _ => Except CallError Address
  | .getPreferences _ | .upsertPreferences _ => Except CallError Preferences
  | .listContacts _ => Except CallError (List Contact)

/-- The answer of the repository. -/
def serveProfile (now : Nat) : (op : ProfileOp) → ProfileDb → op.Resp × ProfileDb
  | .getAddress userID, db => (one ((db.addressOf userID).map addressFrom), db)
  | .upsertAddress params, db => db.upsertAddress now params
  | .getPreferences userID, db => (one ((db.preferencesOf userID).map preferencesFrom), db)
  | .upsertPreferences params, db => db.upsertPreferences now params
  | .listContacts userID, db => (.ok (db.listContacts userID), db)

/-! ## The service -/

abbrev ProfileProg := Program Nat ProfileOp ProfileOp.Resp

structure AddressRequest where
  company : Option String
  careOf : Option String
  street1 : String
  street2 : Option String
  postalCode : String
  city : String
  state : Option String
  countryCode : String
  note : Option String

structure PreferencesRequest where
  preferredContactType : Option String
  note : Option String

/-- `unicode.IsSpace`. -/
def isSpace (letter : Char) : Bool :=
  letter.toNat ∈ [0x09, 0x0A, 0x0B, 0x0C, 0x0D, 0x20, 0x85, 0xA0, 0x1680, 0x2028, 0x2029, 0x202F,
    0x205F, 0x3000] || (0x2000 ≤ letter.toNat && letter.toNat ≤ 0x200A)

/-- `strings.TrimSpace`. -/
def trimSpace (text : List Char) : List Char :=
  ((text.dropWhile isSpace).reverse.dropWhile isSpace).reverse

/-- `unicode.ToUpper`, as far as the result is a letter from A to Z. Any other letter has no
such capital. -/
def upperCase (letter : Char) : Char :=
  if 'a' ≤ letter ∧ letter ≤ 'z' then Char.ofNat (letter.toNat - 32)
  else if letter = 'ı' then 'I'
  else if letter = 'ſ' then 'S'
  else letter

/-- `strings.ToUpper(strings.TrimSpace(text))`. -/
def normalCountryCode (text : String) : String := String.ofList ((trimSpace text.toList).map upperCase)

/-- The length is one of bytes. -/
def validCountryCode (code : String) : Bool :=
  code.utf8ByteSize = 2 && code.toList.all fun letter => 'A' ≤ letter && letter ≤ 'Z'

def validPreferredContactTypes : List String := ["email", "phone", "mobile", "postal", "other"]

/-! ## Country codes -/

theorem utf8Len_eq_length {letters : List Char}
    (hletters : ∀ letter ∈ letters, 'A' ≤ letter ∧ letter ≤ 'Z') :
    String.utf8Len letters = letters.length := by
  induction letters with
  | nil => rfl
  | cons letter rest ih =>
      rw [List.forall_mem_cons] at hletters
      have hone : letter.utf8Size = 1 :=
        Char.utf8Size_eq_one_iff.mpr (UInt32.le_trans hletters.1.2 (by decide : 'Z'.val ≤ 127))
      rw [String.utf8Len_cons, ih hletters.2, hone, List.length_cons]

/-- The service takes the codes that the CHECK admits, although it counts bytes. -/
theorem validCountryCode_iff {code : String} :
    validCountryCode code = true ↔ countryCodeCheck code := by
  unfold validCountryCode countryCodeCheck
  simp only [Bool.and_eq_true, decide_eq_true_eq, List.all_eq_true]
  refine and_congr_left fun hletters => ?_
  rw [← utf8Len_eq_length hletters, ← String.utf8ByteSize_ofList, String.ofList_toList]

theorem dropWhile_isSpace {letters : List Char} (hletters : ∀ letter ∈ letters, isSpace letter = false) :
    letters.dropWhile isSpace = letters := by
  cases letters with
  | nil => rfl
  | cons letter rest => simp [hletters letter List.mem_cons_self]

theorem upperCase_eq {letter : Char} (hletter : 'A' ≤ letter ∧ letter ≤ 'Z') :
    upperCase letter = letter := by
  unfold upperCase
  split_ifs with hlower hi hs
  · exact absurd (le_trans hlower.1 hletter.2) (by decide)
  · exact absurd (hi ▸ hletter.2) (by decide)
  · exact absurd (hs ▸ hletter.2) (by decide)
  · rfl

theorem isSpace_eq_false {letter : Char} (hletter : 'A' ≤ letter ∧ letter ≤ 'Z') :
    isSpace letter = false := by
  have hlow : 65 ≤ letter.toNat := hletter.1
  have hhigh : letter.toNat ≤ 90 := hletter.2
  simp only [isSpace, List.mem_cons, List.not_mem_nil, or_false, Bool.or_eq_false_iff,
    Bool.and_eq_false_iff, decide_eq_false_iff_not]
  omega

/-- A code that the CHECK admits is passed as it is. -/
theorem normalCountryCode_eq {code : String} (hcheck : countryCodeCheck code) :
    normalCountryCode code = code := by
  have hspaces : ∀ letter ∈ code.toList, isSpace letter = false :=
    fun letter hletter => isSpace_eq_false (hcheck.2 letter hletter)
  have htrim : trimSpace code.toList = code.toList := by
    unfold trimSpace
    rw [dropWhile_isSpace hspaces, dropWhile_isSpace (by simpa using hspaces), List.reverse_reverse]
  have hupper : code.toList.map upperCase = code.toList := by
    refine (List.map_congr_left fun letter hletter => ?_).trans (List.map_id _)
    exact upperCase_eq (hcheck.2 letter hletter)
  unfold normalCountryCode
  rw [htrim, hupper, String.ofList_toList]

-- All that methods need is the lemma; unification would compute the letters.
attribute [irreducible] normalCountryCode

/-! ## The methods -/

namespace Service

def getAddress (userID : Uuid) : ProfileProg (Except Err Address) := do
  match ← Program.perform (ProfileOp.getAddress userID) with
  | .error .noRows => return .error (.notFound "address")
  | .error cause => return .error (.call cause)
  | .ok row => return .ok row

def addressParams (actorID userID : Uuid) (cc : String) (req : AddressRequest) :
    UpsertAddressParams where
  userID := userID
  company := req.company
  careOf := req.careOf
  street1 := req.street1
  street2 := req.street2
  postalCode := req.postalCode
  city := req.city
  state := req.state
  countryCode := cc
  note := req.note
  actor := actorNull actorID

def upsertAddress (actorID userID : Uuid) (req : AddressRequest) :
    ProfileProg (Except Err Address) := do
  let cc := normalCountryCode req.countryCode
  if ¬validCountryCode cc then
    return .error (.validation "country_code must be a 2-letter ISO code")
  else
    match ← Program.perform (ProfileOp.upsertAddress (addressParams actorID userID cc req)) with
    | .error cause => return .error (.call cause)
    | .ok row => return .ok row

def getPreferences (userID : Uuid) : ProfileProg (Except Err Preferences) := do
  match ← Program.perform (ProfileOp.getPreferences userID) with
  | .error .noRows => return .error (.notFound "preferences")
  | .error cause => return .error (.call cause)
  | .ok row => return .ok row

def upsertPreferences (actorID userID : Uuid) (req : PreferencesRequest) :
    ProfileProg (Except Err Preferences) := do
  if ∃ type ∈ req.preferredContactType, type ≠ "" ∧ type ∉ validPreferredContactTypes then
    return .error (.validation "invalid preferred_contact_type")
  else
    match ← Program.perform (ProfileOp.upsertPreferences
      { userID := userID
        preferredContactType := req.preferredContactType
        note := req.note
        actor := actorNull actorID }) with
    | .error cause => return .error (.call cause)
    | .ok row => return .ok row

def listContacts (userID : Uuid) : ProfileProg (Except Err (List Contact)) := do
  match ← Program.perform (ProfileOp.listContacts userID) with
  | .error cause => return .error (.call cause)
  | .ok rows => return .ok rows

/-! ## What the methods do -/

section Run

variable (now : Nat) (db : ProfileDb)

theorem run_getAddress (userID : Uuid) :
    (getAddress userID).run serveProfile now db =
      (match db.addressOf userID with
        | none => .error (.notFound "address")
        | some row => .ok (addressFrom row), db) := by
  unfold getAddress
  rw [Program.run_bind, Program.run_perform]
  simp only [serveProfile]
  cases db.addressOf userID <;> rfl

theorem run_getPreferences (userID : Uuid) :
    (getPreferences userID).run serveProfile now db =
      (match db.preferencesOf userID with
        | none => .error (.notFound "preferences")
        | some row => .ok (preferencesFrom row), db) := by
  unfold getPreferences
  rw [Program.run_bind, Program.run_perform]
  simp only [serveProfile]
  cases db.preferencesOf userID <;> rfl

theorem run_upsertAddress (actorID userID : Uuid) (req : AddressRequest) :
    (upsertAddress actorID userID req).run serveProfile now db =
      let cc := normalCountryCode req.countryCode
      if ¬validCountryCode cc then
        (.error (.validation "country_code must be a 2-letter ISO code"), db)
      else
        match db.upsertAddress now (addressParams actorID userID cc req) with
        | (.error cause, after) => (.error (.call cause), after)
        | (.ok row, after) => (.ok row, after) := by
  unfold upsertAddress
  dsimp only
  split
  · rfl
  · rw [Program.run_bind, Program.run_perform]
    simp only [serveProfile]
    rcases db.upsertAddress now _ with ⟨_ | _, after⟩ <;> rfl

theorem run_upsertPreferences (actorID userID : Uuid) (req : PreferencesRequest) :
    (upsertPreferences actorID userID req).run serveProfile now db =
      if ∃ type ∈ req.preferredContactType, type ≠ "" ∧ type ∉ validPreferredContactTypes then
        (.error (.validation "invalid preferred_contact_type"), db)
      else
        match db.upsertPreferences now
          { userID := userID
            preferredContactType := req.preferredContactType
            note := req.note
            actor := actorNull actorID } with
        | (.error cause, after) => (.error (.call cause), after)
        | (.ok row, after) => (.ok row, after) := by
  unfold upsertPreferences
  split
  · rfl
  · rw [Program.run_bind, Program.run_perform]
    simp only [serveProfile]
    rcases db.upsertPreferences now _ with ⟨_ | _, after⟩ <;> rfl

theorem run_listContacts (userID : Uuid) :
    (listContacts userID).run serveProfile now db = (.ok (db.listContacts userID), db) := rfl

end Run

end Service

end Skolva.Crm
