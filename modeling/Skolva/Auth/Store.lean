import Skolva.Auth.External
import Skolva.Effect.Program
import Skolva.Sql.RowTrigger
import Mathlib.Data.List.Sort
import Mathlib.Tactic.Simps.Basic

/-! # The tables of the auth module and the calls on them

One call is one query of `sqlc/queries`, one operation of `metadata.Store` on
`users_meta`, or one mail. Each is answered by the store as the SQL text says.
-/

namespace Skolva.Auth

open Effect

/-! ## Rows -/

/-- A row of `users`. -/
structure User where
  id : Uuid
  email : String
  passwordHash : Text
  firstName : String
  lastName : String
  isActive : Bool
  isProtected : Bool
  anonymizedAt : Option Nat
  createdAt : Nat
  updatedAt : Nat
  deletedAt : Option Nat
  createdBy : Option Uuid
  updatedBy : Option Uuid
  deriving DecidableEq

/-- The columns that `GetUserByID`, `CreateUser` and `UpdateUser` return. -/
structure UserRow where
  id : Uuid
  email : String
  firstName : String
  lastName : String
  isActive : Bool
  isProtected : Bool
  createdAt : Nat
  updatedAt : Nat
  deletedAt : Option Nat
  deriving DecidableEq

/-- The columns that `GetUserByEmail` returns. -/
structure UserByEmailRow where
  id : Uuid
  email : String
  passwordHash : Text
  firstName : String
  lastName : String
  isActive : Bool
  isProtected : Bool
  createdAt : Nat
  updatedAt : Nat
  deriving DecidableEq

@[simps] def User.row (user : User) : UserRow where
  id := user.id
  email := user.email
  firstName := user.firstName
  lastName := user.lastName
  isActive := user.isActive
  isProtected := user.isProtected
  createdAt := user.createdAt
  updatedAt := user.updatedAt
  deletedAt := user.deletedAt

@[simps] def User.byEmailRow (user : User) : UserByEmailRow where
  id := user.id
  email := user.email
  passwordHash := user.passwordHash
  firstName := user.firstName
  lastName := user.lastName
  isActive := user.isActive
  isProtected := user.isProtected
  createdAt := user.createdAt
  updatedAt := user.updatedAt

/-- The trigger `tr_users_updated_at`. -/
def User.touch (user : User) (now : Nat) : User := { user with updatedAt := now }

/-- A row of `user_totp_secrets`, apart from its key. -/
structure UserTotpSecret where
  secretEncrypted : String
  isEnabled : Bool
  verifiedAt : Option Nat
  recoveryCodesHash : List Text
  lastUsedAt : Option Nat
  failedAttempts : Int32
  lockedUntil : Option Nat
  createdAt : Nat
  updatedAt : Nat
  deriving DecidableEq

/-- The zero value of the struct, which a failed scan leaves behind. -/
def UserTotpSecret.zero : UserTotpSecret where
  secretEncrypted := ""
  isEnabled := false
  verifiedAt := none
  recoveryCodesHash := []
  lastUsedAt := none
  failedAttempts := 0
  lockedUntil := none
  createdAt := 0
  updatedAt := 0

/-- `UpsertTOTPSecretParams` without the key. A field that the Go literal leaves
out is its zero value. -/
structure UpsertTOTPSecretParams where
  secretEncrypted : String
  isEnabled : Bool := false
  verifiedAt : Option Nat := none
  recoveryCodesHash : List Text := []
  lastUsedAt : Option Nat := none
  failedAttempts : Int32 := 0
  lockedUntil : Option Nat := none
  deriving DecidableEq

/-- A row of `roles`. -/
structure Role where
  slug : String
  displayName : String
  description : Option String
  isProtected : Bool
  deletedAt : Option Nat
  deriving DecidableEq

/-- The keys of `users_meta` that the auth module uses, and any other key. -/
inductive MetaKey where
  /-- `auth.email2fa.enabled` -/
  | email2faEnabled
  /-- `auth.email2fa.otp_hash` -/
  | email2faOTPHash
  /-- `auth.email2fa.expires_at` -/
  | email2faExpires
  /-- `auth.email2fa.attempts` -/
  | email2faAttempts
  /-- `auth.email2fa.locked_until` -/
  | email2faLocked
  /-- `auth.reset.token_hash` -/
  | resetTokenHash
  /-- `auth.reset.expires_at` -/
  | resetExpiresAt
  /-- `auth.reset.used` -/
  | resetUsed
  | other (name : String)
  deriving DecidableEq

/-- The values filled into the template of a mail. -/
inductive MailBody where
  | code (intro : String) (otp : Bytes) (minutes : Nat)
  | resetLink (user : Uuid) (token : Bytes) (hours : Nat)
  deriving DecidableEq

structure Message where
  recipients : List String
  subject : String
  body : MailBody
  deriving DecidableEq

/-- The tables, and the mails sent so far, latest first. -/
structure Db where
  users : List User
  totp : Uuid → Option UserTotpSecret
  usersMeta : Uuid → MetaKey → Option Text
  roles : List Role
  userRoles : List (Uuid × String)
  permissions : List String
  rolePermissions : List (String × String)
  mails : List Message

/-! ## Calls -/

inductive Op where
  | createUser (id : Uuid) (email : String) (passwordHash : Text) (firstName lastName : String)
      (actor : Option Uuid)
  | getUserByID (id : Uuid)
  | getUserByEmail (email : String)
  | userExistsByEmail (email : String)
  | updateUser (id : Uuid) (firstName lastName : String) (isActive : Bool)
      (updatedBy : Option Uuid)
  | softDeleteUser (id : Uuid) (updatedBy : Option Uuid)
  | updatePassword (id : Uuid) (passwordHash : Text)
  | listUserRoles (userID : Uuid)
  | getPermissionsForUser (userID : Uuid)
  | userHasRole (userID : Uuid) (roleSlug : String)
  | userHasPermission (userID : Uuid) (permissionSlug : String)
  | getTOTPSecret (userID : Uuid)
  | upsertTOTPSecret (userID : Uuid) (params : UpsertTOTPSecretParams)
  | deleteTOTPSecret (userID : Uuid)
  | metaGet (userID : Uuid) (key : MetaKey)
  | metaSet (userID : Uuid) (key : MetaKey) (value : Text)
  | metaDelete (userID : Uuid) (key : MetaKey)
  | sendMail (message : Message)
  deriving DecidableEq

/-- What a call returns when it succeeds. The row that `UpsertTOTPSecret` returns
is used nowhere. -/
abbrev Op.Val : Op → Type
  | .createUser .. => UserRow
  | .getUserByID _ => UserRow
  | .getUserByEmail _ => UserByEmailRow
  | .userExistsByEmail _ => Bool
  | .updateUser .. => UserRow
  | .listUserRoles _ => List Role
  | .getPermissionsForUser _ => List String
  | .userHasRole .. => Bool
  | .userHasPermission .. => Bool
  | .getTOTPSecret _ => UserTotpSecret
  | .metaGet .. => Option Text
  | _ => Unit

abbrev Op.Resp (op : Op) : Type := Except CallError op.Val

abbrev Prog := Program Nat Op Op.Resp

section Calls

abbrev createUser (id : Uuid) (email : String) (passwordHash : Text) (firstName lastName : String)
    (actor : Option Uuid) : Prog (Except CallError UserRow) :=
  Program.perform (Op.createUser id email passwordHash firstName lastName actor)

abbrev getUserByID (id : Uuid) : Prog (Except CallError UserRow) := Program.perform (Op.getUserByID id)

abbrev getUserByEmail (email : String) : Prog (Except CallError UserByEmailRow) :=
  Program.perform (Op.getUserByEmail email)

abbrev userExistsByEmail (email : String) : Prog (Except CallError Bool) :=
  Program.perform (Op.userExistsByEmail email)

abbrev updateUserRow (id : Uuid) (firstName lastName : String) (isActive : Bool)
    (updatedBy : Option Uuid) : Prog (Except CallError UserRow) :=
  Program.perform (Op.updateUser id firstName lastName isActive updatedBy)

abbrev softDeleteUser (id : Uuid) (updatedBy : Option Uuid) : Prog (Except CallError Unit) :=
  Program.perform (Op.softDeleteUser id updatedBy)

abbrev updatePassword (id : Uuid) (passwordHash : Text) : Prog (Except CallError Unit) :=
  Program.perform (Op.updatePassword id passwordHash)

abbrev listUserRoles (userID : Uuid) : Prog (Except CallError (List Role)) :=
  Program.perform (Op.listUserRoles userID)

abbrev getPermissionsForUser (userID : Uuid) : Prog (Except CallError (List String)) :=
  Program.perform (Op.getPermissionsForUser userID)

abbrev userHasRole (userID : Uuid) (roleSlug : String) : Prog (Except CallError Bool) :=
  Program.perform (Op.userHasRole userID roleSlug)

abbrev userHasPermission (userID : Uuid) (permissionSlug : String) :
    Prog (Except CallError Bool) :=
  Program.perform (Op.userHasPermission userID permissionSlug)

abbrev getTOTPSecret (userID : Uuid) : Prog (Except CallError UserTotpSecret) :=
  Program.perform (Op.getTOTPSecret userID)

abbrev upsertTOTPSecret (userID : Uuid) (params : UpsertTOTPSecretParams) :
    Prog (Except CallError Unit) :=
  Program.perform (Op.upsertTOTPSecret userID params)

abbrev deleteTOTPSecret (userID : Uuid) : Prog (Except CallError Unit) :=
  Program.perform (Op.deleteTOTPSecret userID)

abbrev metaGet (userID : Uuid) (key : MetaKey) : Prog (Except CallError (Option Text)) :=
  Program.perform (Op.metaGet userID key)

abbrev metaSet (userID : Uuid) (key : MetaKey) (value : Text) : Prog (Except CallError Unit) :=
  Program.perform (Op.metaSet userID key value)

abbrev metaDelete (userID : Uuid) (key : MetaKey) : Prog (Except CallError Unit) :=
  Program.perform (Op.metaDelete userID key)

abbrev sendMail (message : Message) : Prog (Except CallError Unit) := Program.perform (Op.sendMail message)

/-- `time.Now()`. -/
abbrev timeNow : Prog Nat := Program.readClock

end Calls

/-! ## The store -/

namespace Db

/-- The row that `GetUserByID` selects. -/
def liveUser (db : Db) (id : Uuid) : Option User :=
  db.users.find? (fun user => user.id = id ∧ user.deletedAt = none)

/-- The row that `GetUserByEmail` selects. -/
def userWithEmail (db : Db) (lower : String → String) (email : String) : Option User :=
  db.users.find? (fun user =>
    lower user.email = lower email ∧ user.deletedAt = none ∧ user.anonymizedAt = none)

/-- `UPDATE users SET .. WHERE id = $1 AND deleted_at IS NULL`. -/
def updateLiveUser (db : Db) (now : Nat) (id : Uuid) (change : User → User) : Db :=
  { db with users := db.users.map (fun user =>
      if user.id = id ∧ user.deletedAt = none then (change user).touch now else user) }

/-- The live roles a user holds. -/
def liveRoles (db : Db) (userID : Uuid) : List Role :=
  db.roles.filter (fun role => (userID, role.slug) ∈ db.userRoles ∧ role.deletedAt = none)

/-- The permissions that live roles of a user grant. -/
def permissionsFor (db : Db) (userID : Uuid) : List String :=
  db.permissions.filter (fun permission =>
    (db.liveRoles userID).any (fun role => (role.slug, permission) ∈ db.rolePermissions))

def setTotp (db : Db) (userID : Uuid) (row : Option UserTotpSecret) : Db :=
  { db with totp := Function.update db.totp userID row }

def setMeta (db : Db) (userID : Uuid) (key : MetaKey) (value : Option Text) : Db :=
  let keys := Function.update (db.usersMeta userID) key value
  { db with usersMeta := Function.update db.usersMeta userID keys }

section Updates

variable (db : Db) (u v : Uuid) (row : Option UserTotpSecret) (key other : MetaKey)
  (value : Option Text)

@[simp] theorem setTotp_self : (db.setTotp u row).totp u = row := Function.update_self ..

theorem setMeta_apply : (db.setMeta u key value).usersMeta v other =
    if v = u ∧ other = key then value else db.usersMeta v other := by
  by_cases huser : v = u
  · subst huser
    by_cases hkey : other = key
    · simp [setMeta, hkey]
    · simp [setMeta, hkey]
  · simp [setMeta, huser]

theorem setMeta_keys : (db.setMeta u key value).usersMeta u =
    Function.update (db.usersMeta u) key value := by
  simp [setMeta]

@[simp] theorem setMeta_self : (db.setMeta u key value).usersMeta u key = value := by
  simp [setMeta_apply]

theorem setMeta_otherKey {key other : MetaKey} (hother : other ≠ key) :
    (db.setMeta u key value).usersMeta v other = db.usersMeta v other := by
  simp [setMeta_apply, hother]

theorem setMeta_otherUser {u v : Uuid} (hother : v ≠ u) :
    (db.setMeta u key value).usersMeta v other = db.usersMeta v other := by
  simp [setMeta_apply, hother]

end Updates

/-- The user has an active TOTP row. -/
def TotpEnabled (db : Db) (u : Uuid) : Prop := ∃ row ∈ db.totp u, row.isEnabled = true

end Db

/-- The row after `INSERT .. ON CONFLICT (user_id) DO UPDATE`. -/
def UpsertTOTPSecretParams.row (params : UpsertTOTPSecretParams) (now : Nat)
    (existing : Option UserTotpSecret) : UserTotpSecret where
  secretEncrypted := params.secretEncrypted
  isEnabled := params.isEnabled
  verifiedAt := params.verifiedAt
  recoveryCodesHash := params.recoveryCodesHash
  lastUsedAt := params.lastUsedAt
  failedAttempts := params.failedAttempts
  lockedUntil := params.lockedUntil
  createdAt := (existing.map UserTotpSecret.createdAt).getD now
  updatedAt := now

/-- A look-up that reports `ErrNoRows` where it selects nothing. -/
def one {α : Type} : Option α → Except CallError α
  | some row => .ok row
  | none => .error .noRows

/-- The row `CreateUser` inserts. -/
def newUser (now : Nat) (id : Uuid) (email : String) (passwordHash : Text)
    (firstName lastName : String) (actor : Option Uuid) : User where
  id := id
  email := email
  passwordHash := passwordHash
  firstName := firstName
  lastName := lastName
  isActive := true
  isProtected := false
  anonymizedAt := none
  createdAt := now
  updatedAt := now
  deletedAt := none
  createdBy := actor
  updatedBy := actor

/-- The answer of the store to a call, and the store after it. The foreign key of
`user_totp_secrets` cannot fail: the code upserts only for users it has looked
up, and a user is never removed physically. -/
def serve (lib : External) (now : Nat) : (op : Op) → Db → op.Resp × Db
  | .createUser id email passwordHash firstName lastName actor, db =>
      if (db.users.any fun user => user.id = id) || (db.userWithEmail lib.lower email).isSome then
        (.error .constraint, db)
      else
        let user := newUser now id email passwordHash firstName lastName actor
        (.ok user.row, { db with users := db.users ++ [user] })
  | .getUserByID id, db => (one ((db.liveUser id).map User.row), db)
  | .getUserByEmail email, db => (one ((db.userWithEmail lib.lower email).map User.byEmailRow), db)
  | .userExistsByEmail email, db => (.ok (db.userWithEmail lib.lower email).isSome, db)
  | .updateUser id firstName lastName isActive updatedBy, db =>
      let after := db.updateLiveUser now id (fun user =>
        { user with firstName, lastName, isActive, updatedBy })
      (one ((after.liveUser id).map User.row), after)
  | .softDeleteUser id updatedBy, db =>
      (.ok (), db.updateLiveUser now id (fun user => { user with deletedAt := some now, updatedBy }))
  | .updatePassword id passwordHash, db =>
      (.ok (), db.updateLiveUser now id (fun user => { user with passwordHash }))
  | .listUserRoles userID, db =>
      (.ok ((db.liveRoles userID).insertionSort (fun left right => left.slug ≤ right.slug)), db)
  | .getPermissionsForUser userID, db =>
      (.ok ((db.permissionsFor userID).dedup.insertionSort (fun left right => left ≤ right)), db)
  | .userHasRole userID roleSlug, db => (.ok ((userID, roleSlug) ∈ db.userRoles), db)
  | .userHasPermission userID permissionSlug, db =>
      (.ok ((db.liveRoles userID).any (fun role =>
        (role.slug, permissionSlug) ∈ db.rolePermissions)), db)
  | .getTOTPSecret userID, db => (one (db.totp userID), db)
  | .upsertTOTPSecret userID params, db =>
      (.ok (), db.setTotp userID (some (params.row now (db.totp userID))))
  | .deleteTOTPSecret userID, db => (.ok (), db.setTotp userID none)
  | .metaGet userID key, db => (.ok (db.usersMeta userID key), db)
  | .metaSet userID key value, db => (.ok (), db.setMeta userID key (some value))
  | .metaDelete userID key, db => (.ok (), db.setMeta userID key none)
  | .sendMail message, db => (.ok (), { db with mails := message :: db.mails })

theorem run_metaGet (lib : External) (now : Nat) (db : Db) (userID : Uuid) (key : MetaKey) :
    (metaGet userID key).run (serve lib) now db = (.ok (db.usersMeta userID key), db) := rfl

/-! ## What calls leave alone -/

/-- The call does not write to `users`. -/
def Op.LeavesUsers : Op → Prop
  | .createUser .. | .updateUser .. | .softDeleteUser .. | .updatePassword .. => False
  | _ => True

/-- The call does not write this key of the user. -/
def Op.LeavesMeta (u : Uuid) (key : MetaKey) : Op → Prop
  | .metaSet v written _ | .metaDelete v written => ¬(u = v ∧ key = written)
  | _ => True

/-- The call does not write the TOTP row of the user. -/
def Op.LeavesTotp (u : Uuid) : Op → Prop
  | .upsertTOTPSecret v _ | .deleteTOTPSecret v => u ≠ v
  | _ => True

section Frame

variable (lib : External) (now : Nat) {op : Op} (db : Db)

theorem serve_users (hop : op.LeavesUsers) : (serve lib now op db).2.users = db.users := by
  cases op <;> first | rfl | exact hop.elim

theorem run_users {α : Type} {program : Prog α} (huses : program.Uses Op.LeavesUsers) :
    (program.run (serve lib) now db).2.users = db.users :=
  Program.run_preserves (serve lib) now huses (motive := fun store => store.users = db.users)
    (fun _ store hop hstore => (serve_users lib now store hop).trans hstore) rfl

theorem serve_meta {u : Uuid} {key : MetaKey} (hop : op.LeavesMeta u key) :
    (serve lib now op db).2.usersMeta u key = db.usersMeta u key := by
  cases op with
  | metaSet v written value => exact (db.setMeta_apply ..).trans (if_neg hop)
  | metaDelete v written => exact (db.setMeta_apply ..).trans (if_neg hop)
  | createUser id email passwordHash firstName lastName actor =>
      simp only [serve]
      split <;> rfl
  | _ => rfl

theorem serve_totp {u : Uuid} (hop : op.LeavesTotp u) :
    (serve lib now op db).2.totp u = db.totp u := by
  cases op with
  | upsertTOTPSecret v params => exact Function.update_of_ne hop ..
  | deleteTOTPSecret v => exact Function.update_of_ne hop ..
  | createUser id email passwordHash firstName lastName actor =>
      simp only [serve]
      split <;> rfl
  | _ => rfl

end Frame

/-! ## The primary key of `users` -/

namespace Db

/-- No two rows of `users` have the same identifier. -/
def KeyUnique (db : Db) : Prop := (db.users.map User.id).Nodup

theorem updateLiveUser_ids (db : Db) (now : Nat) (u : Uuid) {change : User → User}
    (hchange : ∀ user, (change user).id = user.id) :
    (db.updateLiveUser now u change).users.map User.id = db.users.map User.id := by
  unfold updateLiveUser
  rw [List.map_map]
  apply List.map_congr_left
  intro user _
  simp only [Function.comp_apply]
  split
  · exact hchange user
  · rfl

theorem keyUnique_updateLiveUser {db : Db} (now : Nat) (u : Uuid) {change : User → User}
    (hchange : ∀ user, (change user).id = user.id) (hkey : db.KeyUnique) :
    (db.updateLiveUser now u change).KeyUnique := by
  unfold KeyUnique
  rw [updateLiveUser_ids db now u hchange]
  exact hkey

theorem keyUnique_serve (lib : External) (now : Nat) (op : Op) {db : Db} (hkey : db.KeyUnique) :
    (serve lib now op db).2.KeyUnique := by
  cases op with
  | createUser id email passwordHash firstName lastName actor =>
      simp only [serve]
      split
      · exact hkey
      next hfresh =>
          have hid : id ∉ db.users.map User.id := by
            simp only [Bool.or_eq_true, List.any_eq_true, decide_eq_true_eq, not_or] at hfresh
            rw [List.mem_map]
            exact hfresh.1
          unfold KeyUnique
          rw [List.map_append, List.map_singleton, List.nodup_append]
          refine ⟨hkey, List.nodup_singleton _, ?_⟩
          rintro old hold new hnew rfl
          rw [List.mem_singleton.mp hnew] at hold
          exact hid hold
  | updateUser | softDeleteUser | updatePassword =>
      exact keyUnique_updateLiveUser now _ (fun _ => rfl) hkey
  | _ => exact hkey

/-- There is a row for the user, which may be deleted. -/
def Known (db : Db) (u : Uuid) : Prop := u ∈ db.users.map User.id

theorem known_updateLiveUser {db : Db} (now : Nat) (v : Uuid) {change : User → User}
    (hchange : ∀ user, (change user).id = user.id) {u : Uuid} (hknown : db.Known u) :
    (db.updateLiveUser now v change).Known u := by
  unfold Known
  rw [updateLiveUser_ids db now v hchange]
  exact hknown

theorem known_serve (lib : External) (now : Nat) (op : Op) {db : Db} {u : Uuid}
    (hknown : db.Known u) : (serve lib now op db).2.Known u := by
  cases op with
  | createUser id email passwordHash firstName lastName actor =>
      simp only [serve]
      split
      · exact hknown
      · unfold Known
        rw [List.map_append]
        exact List.mem_append_left _ hknown
  | updateUser | softDeleteUser | updatePassword =>
      refine known_updateLiveUser now _ ?_ hknown
      exact fun _ => rfl
  | _ => exact hknown

/-- The row of a live user after an update that keeps it live. -/
theorem liveUser_updateLiveUser (db : Db) (now : Nat) (u : Uuid) (change : User → User)
    (hid : ∀ user, (change user).id = user.id)
    (hdeleted : ∀ user, (change user).deletedAt = user.deletedAt) :
    (db.updateLiveUser now u change).liveUser u =
      (db.liveUser u).map fun user => (change user).touch now := by
  apply Sql.find?_updated fun user : User => user.id = u ∧ user.deletedAt = none
  intro user huser
  simpa [User.touch, hid, hdeleted] using huser

/-- What is written to live rows leaves a user alone who has none. -/
theorem liveUser_updateLiveUser_of_none {db : Db} (now : Nat) (v : Uuid) {change : User → User}
    (hchange : ∀ user, (change user).id = user.id) {u : Uuid} (hdeleted : db.liveUser u = none) :
    (db.updateLiveUser now v change).liveUser u = none := by
  unfold liveUser updateLiveUser at *
  rw [List.find?_eq_none] at hdeleted ⊢
  intro written hwritten
  obtain ⟨user, huser, rfl⟩ := List.mem_map.mp hwritten
  have hold := hdeleted user huser
  simp only [decide_eq_true_eq, not_and] at hold ⊢
  by_cases howner : user.id = v ∧ user.deletedAt = none
  · rw [if_pos howner]
    intro hid
    exact absurd howner.2 (hold ((hchange user).symm.trans hid))
  · rw [if_neg howner]
    exact hold

/-- A live row that is written as deleted leaves no live row behind. -/
theorem liveUser_updateLiveUser_self {db : Db} (now : Nat) {u : Uuid} {change : User → User}
    (hchange : ∀ user, (change user).deletedAt ≠ none) :
    (db.updateLiveUser now u change).liveUser u = none := by
  unfold liveUser updateLiveUser
  rw [List.find?_eq_none]
  intro written hwritten
  obtain ⟨user, huser, rfl⟩ := List.mem_map.mp hwritten
  simp only [decide_eq_true_eq, not_and]
  by_cases howner : user.id = u ∧ user.deletedAt = none
  · rw [if_pos howner]
    exact fun _ => hchange user
  · rw [if_neg howner]
    exact fun hid hlive => howner ⟨hid, hlive⟩

/-- Nothing brings a deleted user back. -/
theorem liveUser_serve_of_none (lib : External) (now : Nat) (op : Op) {db : Db} {u : Uuid}
    (hknown : db.Known u) (hdeleted : db.liveUser u = none) :
    (serve lib now op db).2.liveUser u = none := by
  cases op with
  | createUser id email passwordHash firstName lastName actor =>
      simp only [serve]
      split
      · exact hdeleted
      next hfresh =>
          have hid : id ≠ u := by
            rintro rfl
            simp only [Bool.or_eq_true, List.any_eq_true, decide_eq_true_eq, not_or] at hfresh
            exact hfresh.1 (List.mem_map.mp hknown)
          unfold liveUser at hdeleted ⊢
          rw [List.find?_append, hdeleted]
          simp [newUser, hid]
  | updateUser | softDeleteUser | updatePassword =>
      refine liveUser_updateLiveUser_of_none now _ ?_ hdeleted
      exact fun _ => rfl
  | _ => exact hdeleted

/-- The row found by its address is the row with its identifier. -/
theorem liveUser_of_userWithEmail {db : Db} {lower : String → String} {email : String}
    {user : User} (hkey : db.KeyUnique) (huser : db.userWithEmail lower email = some user) :
    db.liveUser user.id = some user ∧ user.anonymizedAt = none := by
  have hmem := List.mem_of_find?_eq_some huser
  have hfound := List.find?_some huser
  simp only [decide_eq_true_eq] at hfound
  refine ⟨?_, hfound.2.2⟩
  unfold liveUser
  cases hlive : db.users.find? (fun other => other.id = user.id ∧ other.deletedAt = none) with
  | none =>
      have hnone := List.find?_eq_none.mp hlive user hmem
      simp [hfound.2.1] at hnone
  | some other =>
      have hother := List.find?_some hlive
      simp only [decide_eq_true_eq] at hother
      rw [List.inj_on_of_nodup_map hkey (List.mem_of_find?_eq_some hlive) hmem hother.1]

end Db

end Skolva.Auth
