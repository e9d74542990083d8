import Skolva.Api.PatchRequests
import Skolva.Auth.Handler

/-! # The requests of the server

The handlers of the three modules, the middleware that the routes put before them, and what
`ShouldBindJSON` makes of a body. The router has picked the handler of a request and has
bound the parameters of its path.
-/

namespace Skolva.Http

open Auth (Bytes bytesOf)

/-! ## Handlers -/

inductive Endpoint where
  | health
  | login | register
  | setup2FA | confirm2FA | verify2FA | recover2FA | disable2FA
  | setupEmail2FA | confirmEmail2FA | verifyEmail2FA | resendEmail2FA | disableEmail2FA
  | forgotPassword | resetPassword
  | listUsers | getUser | updateUser | deleteUser
  | listUserRoles | assignRole | removeRole
  | searchUsers
  | listGroups | createGroup | getGroup | updateGroup | deleteGroup
  | listMembers | addMember | removeMember | listUserGroups
  | getAddress | putAddress | getPreferences | putPreferences
  | listContacts | createContact | updateContact | deleteContact
  | openapi | docs | redoc
  deriving DecidableEq

/-- What stands before a handler: nothing, `RequireAuth` or `RequirePermission`. -/
inductive Guard where
  | everyone
  | requireAuth
  | requirePermission (permission : String)
  deriving DecidableEq

/-- The middleware of each route. -/
def Endpoint.guard : Endpoint → Guard
  | health => .everyone
  | login => .everyone
  | register => .requirePermission "users.write"
  | setup2FA => .requireAuth
  | confirm2FA => .requireAuth
  | verify2FA => .everyone
  | recover2FA => .everyone
  | disable2FA => .requireAuth
  | setupEmail2FA => .requireAuth
  | confirmEmail2FA => .requireAuth
  | verifyEmail2FA => .everyone
  | resendEmail2FA => .everyone
  | disableEmail2FA => .requireAuth
  | forgotPassword => .everyone
  | resetPassword => .everyone
  | listUsers => .requirePermission "users.read"
  | getUser => .requirePermission "users.read"
  | updateUser => .requirePermission "users.write"
  | deleteUser => .requirePermission "users.write"
  | listUserRoles => .requirePermission "users.read"
  | assignRole => .requirePermission "users.write"
  | removeRole => .requirePermission "users.write"
  | searchUsers => .requirePermission "users.read"
  | listGroups => .requirePermission "groups.read"
  | createGroup => .requirePermission "groups.write"
  | getGroup => .requirePermission "groups.read"
  | updateGroup => .requirePermission "groups.write"
  | deleteGroup => .requirePermission "groups.write"
  | listMembers => .requirePermission "groups.read"
  | addMember => .requirePermission "groups.write"
  | removeMember => .requirePermission "groups.write"
  | listUserGroups => .requirePermission "groups.read"
  | getAddress => .requirePermission "users.read"
  | putAddress => .requirePermission "users.write"
  | getPreferences => .requirePermission "users.read"
  | putPreferences => .requirePermission "users.write"
  | listContacts => .requirePermission "users.read"
  | createContact => .requirePermission "users.write"
  | updateContact => .requirePermission "users.write"
  | deleteContact => .requirePermission "users.write"
  | openapi => .everyone
  | docs => .everyone
  | redoc => .everyone

/-! ## Bodies -/

/-- A value in a JSON object, as far as a field of a request can take it. -/
inductive Value where
  | string (text : String)
  | bool (flag : Bool)
  | other
  deriving DecidableEq

/-- What `json.Unmarshal` finds for the tag of a field. -/
abbrev Object := String → Api.Field Value

namespace Object

variable (object : Object) (tag : String)

/-- A value of another type is an error. -/
def string : Option (Api.Field String) :=
  match object tag with
  | .omitted => some .omitted
  | .null => some .null
  | .value (.string text) => some (.value text)
  | .value _ => none

def bool : Option (Api.Field Bool) :=
  match object tag with
  | .omitted => some .omitted
  | .null => some .null
  | .value (.bool flag) => some (.value flag)
  | .value _ => none

/-- A field of type `string`. -/
def text : Option String := (object.string tag).map (Api.Field.plain "")

/-- A field of type `*string`. -/
def textPointer : Option (Option String) := (object.string tag).map Api.Field.pointer

/-- A field of type `bool`. -/
def flag : Option Bool := (object.bool tag).map (Api.Field.plain false)

/-- A field of type `*bool`. -/
def flagPointer : Option (Option Bool) := (object.bool tag).map Api.Field.pointer

/-- A field of type `string` with `binding:"required"`. -/
def required : Option String := (object.text tag).filter (· ≠ "")

end Object

/-! ## The requests of `dto.go` -/

section Bind

variable {Token : Type} (readToken : String → Token) (isEmail : String → Bool) (object : Object)

/-- `binding:"required,min=8"`. The length is one of characters. -/
def bindPassword : Option Bytes :=
  ((object.required "password").filter fun password => 8 ≤ password.length).map bytesOf

def bindEmail : Option String := (object.required "email").filter isEmail

def bindAssignRole : Option String := object.required "role_slug"

def bindLogin : Option Auth.LoginRequest := do
  let email ← object.required "email"
  let password ← object.required "password"
  return { email, password := bytesOf password }

def bindRegister : Option Auth.RegisterRequest := do
  let email ← bindEmail isEmail object
  let password ← bindPassword object
  let firstName ← object.required "first_name"
  let lastName ← object.required "last_name"
  return { email, password, firstName, lastName }

def bindUpdateUser : Option Auth.UpdateUserRequest := do
  let firstName ← object.required "first_name"
  let lastName ← object.required "last_name"
  let isActive ← object.flagPointer "is_active"
  return { firstName, lastName, isActive }

def bindCode : Option Bytes := (object.required "code").map bytesOf

def bindTempToken : Option Token := (object.required "temp_token").map readToken

def bindVerify2FA : Option (Auth.Verify2FARequest Token) := do
  let tempToken ← bindTempToken readToken object
  let code ← bindCode object
  return { tempToken, code }

def bindPasswordForgot : Option String := bindEmail isEmail object

def bindPasswordReset : Option Auth.PasswordResetRequest := do
  let userID ← object.required "user_id"
  let token ← object.required "token"
  let password ← bindPassword object
  return { userID, token := bytesOf token, password }

/-- `createGroupRequest`. -/
structure CreateGroupRequest where
  name : String
  description : Option String
  groupType : String

def bindCreateGroup : Option CreateGroupRequest := do
  let name ← object.required "name"
  let description ← object.textPointer "description"
  let groupType ← object.text "group_type"
  return { name, description, groupType }

def bindUpdateGroup : Option Api.GroupPatch := do
  let name ← object.string "name"
  let description ← object.string "description"
  let groupType ← object.string "group_type"
  let isActive ← object.bool "is_active"
  return { name, description, groupType, isActive }

/-- `addMemberRequest`. -/
structure AddMemberRequest where
  userID : String
  roleInGroup : String

def bindAddMember : Option AddMemberRequest := do
  let userID ← object.required "user_id"
  let roleInGroup ← object.text "role_in_group"
  return { userID, roleInGroup }

def bindAddress : Option Crm.AddressRequest := do
  let company ← object.textPointer "company"
  let careOf ← object.textPointer "care_of"
  let street1 ← object.required "street1"
  let street2 ← object.textPointer "street2"
  let postalCode ← object.required "postal_code"
  let city ← object.required "city"
  let state ← object.textPointer "state"
  let countryCode ← object.required "country_code"
  let note ← object.textPointer "note"
  return { company, careOf, street1, street2, postalCode, city, state, countryCode, note }

def bindPreferences : Option Crm.PreferencesRequest := do
  let preferredContactType ← object.textPointer "preferred_contact_type"
  let note ← object.textPointer "note"
  return { preferredContactType, note }

def bindCreateContact : Option Crm.CreateContactRequest := do
  let contactType ← object.required "contact_type"
  let label ← object.textPointer "label"
  let value ← object.required "value"
  let isPrimary ← object.flag "is_primary"
  let isPreferred ← object.flag "is_preferred"
  let allowContact ← object.flagPointer "allow_contact"
  let preferredTimeWindow ← object.textPointer "preferred_time_window"
  let note ← object.textPointer "note"
  return { contactType, label, value, isPrimary, isPreferred, allowContact, preferredTimeWindow,
           note }

def bindUpdateContact : Option Api.ContactPatch := do
  let label ← object.string "label"
  let value ← object.string "value"
  let isPrimary ← object.bool "is_primary"
  let isPreferred ← object.bool "is_preferred"
  let allowContact ← object.bool "allow_contact"
  let preferredTimeWindow ← object.string "preferred_time_window"
  let note ← object.string "note"
  return { label, value, isPrimary, isPreferred, allowContact, preferredTimeWindow, note }

end Bind

/-! ## Requests -/

/-- What the server draws while it processes a request. -/
structure Draws where
  login : Auth.LoginDraw
  setup : Auth.SetupDraw
  otp : Auth.OTPDraw
  reset : Auth.ResetDraw
  id : Uuid
  salt : Nat
  jti : Uuid

structure Request where
  endpoint : Endpoint
  /-- The token of the header `Authorization`. -/
  bearer : Option String
  /-- `c.Param` -/
  param : String → String
  /-- `c.Query` -/
  query : String → String
  /-- The JSON object in the body, if there is one. -/
  body : Option Object
  draws : Draws

end Skolva.Http
