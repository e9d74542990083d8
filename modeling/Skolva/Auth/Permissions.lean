import Skolva.Auth.Login
import Mathlib.Data.List.Dedup

/-! # Permissions

`Service.CheckPermission` asks the database, and `Actor.HasPermission` asks the
claims of a token that `verifier.go` has turned into an actor. Both are meant to
be the same decision.
-/

namespace Skolva.Auth

open Effect

/-! ## The two decisions -/

def adminRole : String := "admin"

/-- The `Actor` of the middleware. -/
structure Actor where
  userID : String
  email : String
  roles : List String
  permissions : List String
  deriving DecidableEq

namespace Actor

def hasRole (actor : Actor) (role : String) : Bool := role ∈ actor.roles

/-- `HasPermission` of skolva-core, as `docs/rbac.md` (119-131) quotes it. -/
def hasPermission (actor : Actor) (permission : String) : Bool :=
  actor.hasRole adminRole || permission ∈ actor.permissions

end Actor

/-- `NewVerifier`. -/
def newVerifier (lib : External) (tm : TokenManager) (token : lib.Token) :
    Prog (Except Err Actor) := do
  match ← tm.verify lib token with
  | .error err => return .error err
  | .ok claims =>
      if claims.kind = tokenKindAccess then
        return .ok {
          userID := claims.subject
          email := claims.email
          roles := claims.roles
          permissions := claims.permissions }
      else
        return .error .notAccessToken

def Service.checkPermission (userID : Uuid) (permissionSlug : String) :
    Prog (Except Err Bool) := do
  match ← userHasRole userID adminRole with
  | .error cause => return .error (.call cause)
  | .ok true => return .ok true
  | .ok false =>
      match ← userHasPermission userID permissionSlug with
      | .error cause => return .error (.call cause)
      | .ok allowed => return .ok allowed

namespace Db

/-- The keys and foreign keys of `roles`, `permissions`, `user_roles` and
`role_permissions`. -/
structure RbacConstraints (db : Db) : Prop where
  roleKeys : (db.roles.map Role.slug).Nodup
  permissionKeys : db.permissions.Nodup
  userRoleKeys : db.userRoles.Nodup
  rolePermissionKeys : db.rolePermissions.Nodup
  assignedUser : ∀ assigned ∈ db.userRoles, assigned.1 ∈ db.users.map User.id
  assignedRole : ∀ assigned ∈ db.userRoles, assigned.2 ∈ db.roles.map Role.slug
  grantingRole : ∀ grant ∈ db.rolePermissions, grant.1 ∈ db.roles.map Role.slug
  grantedPermission : ∀ grant ∈ db.rolePermissions, grant.2 ∈ db.permissions

variable (db : Db) (u : Uuid)

/-- Some live role of the user grants the permission. -/
def Grants (permission : String) : Prop :=
  ∃ role ∈ db.liveRoles u, (role.slug, permission) ∈ db.rolePermissions

/-- The user holds an admin role that is live. -/
def HoldsLiveAdmin : Prop := ∃ role ∈ db.liveRoles u, role.slug = adminRole

/-- The user holds an admin role that has been deleted. -/
def HoldsDeletedAdmin : Prop :=
  ∃ role ∈ db.roles, role.slug = adminRole ∧ role.deletedAt ≠ none ∧
    (u, adminRole) ∈ db.userRoles

end Db

/-! ## What each of them decides -/

section Decisions

variable {db : Db} {u : Uuid}

theorem mem_liveRoles {role : Role} : role ∈ db.liveRoles u ↔
    role ∈ db.roles ∧ (u, role.slug) ∈ db.userRoles ∧ role.deletedAt = none := by
  simp [Db.liveRoles]

/-- A role that is assigned exists, live or deleted. -/
theorem holdsAdmin_iff (hrbac : db.RbacConstraints) :
    (u, adminRole) ∈ db.userRoles ↔ db.HoldsLiveAdmin u ∨ db.HoldsDeletedAdmin u := by
  unfold Db.HoldsLiveAdmin Db.HoldsDeletedAdmin
  constructor
  · intro hassigned
    obtain ⟨role, hrole, hslug⟩ := List.mem_map.mp (hrbac.assignedRole _ hassigned)
    dsimp only at hslug
    by_cases hlive : role.deletedAt = none
    · exact .inl ⟨role, mem_liveRoles.mpr ⟨hrole, hslug ▸ hassigned, hlive⟩, hslug⟩
    · exact .inr ⟨role, hrole, hslug, hlive, hassigned⟩
  · rintro (⟨role, hrole, hslug⟩ | ⟨role, _, _, _, hassigned⟩)
    · exact hslug ▸ (mem_liveRoles.mp hrole).2.1
    · exact hassigned

/-- There is one admin role, so it is not live and deleted at once. -/
theorem not_holdsLiveAdmin_of_deleted (hrbac : db.RbacConstraints)
    (hdeleted : db.HoldsDeletedAdmin u) : ¬db.HoldsLiveAdmin u := by
  rintro ⟨role, hrole, hslug⟩
  obtain ⟨other, hother, hslug', hgone, -⟩ := hdeleted
  obtain ⟨hmem, -, hlive⟩ := mem_liveRoles.mp hrole
  have hsame : role = other :=
    List.inj_on_of_nodup_map hrbac.roleKeys hmem hother (hslug.trans hslug'.symm)
  exact hgone (hsame ▸ hlive)

/-- The catalogue leaves out no permission that is granted. -/
theorem mem_permissionsFor (hrbac : db.RbacConstraints) {permission : String} :
    permission ∈ db.permissionsFor u ↔ db.Grants u permission := by
  unfold Db.permissionsFor Db.Grants
  rw [List.mem_filter, List.any_eq_true]
  simp only [decide_eq_true_eq]
  constructor
  · exact And.right
  · rintro ⟨role, hrole, hgrant⟩
    exact ⟨hrbac.grantedPermission _ hgrant, role, hrole, hgrant⟩

variable (s : Service) (now : Nat)

/-- `CheckPermission` counts an admin role whether it is live or deleted. -/
theorem run_checkPermission (hrbac : db.RbacConstraints) (permission : String) :
    ∃ allowed, (Service.checkPermission u permission).run (serve s.lib) now db =
        (.ok allowed, db) ∧
      (allowed = true ↔
        db.HoldsLiveAdmin u ∨ db.HoldsDeletedAdmin u ∨ db.Grants u permission) := by
  unfold Service.checkPermission
  rw [Program.run_bind, Program.run_perform]
  simp only [serve, ← or_assoc, ← holdsAdmin_iff hrbac]
  by_cases hadmin : (u, adminRole) ∈ db.userRoles
  · exact ⟨true, by simp [hadmin], by simp [hadmin]⟩
  · exact ⟨_, by simp [hadmin, serve]; rfl, by simp [hadmin, Db.Grants]⟩

/-- An access token that is valid leads to an actor with its claims. -/
theorem run_newVerifier {token : s.lib.Token} {claims : Claims}
    (hparse : s.lib.jwtParse s.tm.secret token = some claims)
    (hkind : claims.kind = tokenKindAccess) :
    (newVerifier s.lib s.tm token).run (serve s.lib) now db =
      (if claims.ValidAt now then
          .ok ⟨claims.subject, claims.email, claims.roles, claims.permissions⟩
        else .error .invalidToken, db) := by
  rw [newVerifier, Program.run_bind, TokenManager.run_verify, hparse]
  by_cases hvalid : claims.ValidAt now
  · simp only [if_pos hvalid, if_pos hkind, Program.run_pure]
  · simp only [if_neg hvalid, Program.run_pure]

/-- The actor of an access token carries the live roles and what they grant. -/
theorem hasPermission_of_issued (hrbac : db.RbacConstraints) {jti : Uuid} {token : s.lib.Token}
    (hissue : ((s.issueAccessForUser jti u).run (serve s.lib) now db).1 = .ok token)
    {verifiedAt : Nat} {actor : Actor}
    (hverify : ((newVerifier s.lib s.tm token).run (serve s.lib) verifiedAt db).1 = .ok actor)
    (permission : String) :
    actor.hasPermission permission = true ↔ db.HoldsLiveAdmin u ∨ db.Grants u permission := by
  rw [Service.run_issueAccessForUser] at hissue
  cases huser : db.liveUser u with
  | none =>
      rw [huser] at hissue
      cases hissue
  | some user =>
      rw [huser] at hissue
      obtain rfl := Except.ok.inj hissue
      rw [run_newVerifier s verifiedAt (TokenManager.parse_signed s.lib s.tm now jti
        (s.lib.uuidString u) user.email _ _ tokenKindAccess s.tm.accessTTL) rfl] at hverify
      split at hverify
      next hvalid =>
          obtain rfl := Except.ok.inj hverify
          unfold Actor.hasPermission Actor.hasRole
          rw [Bool.or_eq_true, decide_eq_true_iff, decide_eq_true_iff]
          refine or_congr ?_ ?_
          · simp [TokenManager.claimsAt, TokenManager.claimsBy, Db.HoldsLiveAdmin]
          · rw [← mem_permissionsFor hrbac]
            exact (List.mem_insertionSort _).trans List.mem_dedup
      next => cases hverify

/-- The two decisions agree, and are the documented one, unless an admin role that has
been deleted is all that speaks for the user. -/
theorem permissions_agree_iff (hrbac : db.RbacConstraints) {jti : Uuid} {token : s.lib.Token}
    (hissue : ((s.issueAccessForUser jti u).run (serve s.lib) now db).1 = .ok token)
    {verifiedAt : Nat} {actor : Actor}
    (hverify : ((newVerifier s.lib s.tm token).run (serve s.lib) verifiedAt db).1 = .ok actor)
    (permission : String) :
    (((Service.checkPermission u permission).run (serve s.lib) now db).1 =
        .ok (actor.hasPermission permission) ∧
      (actor.hasPermission permission = true ↔
        db.HoldsLiveAdmin u ∨ db.Grants u permission)) ↔
      (db.HoldsDeletedAdmin u → db.Grants u permission) := by
  have hactor := hasPermission_of_issued s now hrbac hissue hverify permission
  obtain ⟨allowed, hrun, hallowed⟩ := run_checkPermission (u := u) s now hrbac permission
  have hagree : allowed = actor.hasPermission permission ↔
      (db.HoldsDeletedAdmin u → db.Grants u permission) := by
    rw [Bool.eq_iff_iff, hallowed, hactor]
    constructor
    · intro hsame hdeleted
      rcases hsame.mp (.inr (.inl hdeleted)) with hlive | hgrants
      · exact absurd hlive (not_holdsLiveAdmin_of_deleted hrbac hdeleted)
      · exact hgrants
    · intro hcovered
      constructor
      · rintro (hlive | hdeleted | hgrants)
        · exact .inl hlive
        · exact .inr (hcovered hdeleted)
        · exact .inr hgrants
      · rintro (hlive | hgrants)
        · exact .inl hlive
        · exact .inr (.inr hgrants)
  rw [hrun, ← hagree]
  constructor
  · rintro ⟨hsame, -⟩
    exact Except.ok.inj hsame
  · intro hsame
    exact ⟨congrArg Except.ok hsame, hactor⟩

end Decisions

namespace Sample

def adminRow (deletedAt : Option Nat) : Role :=
  ⟨adminRole, "Administrator", none, true, deletedAt⟩

/-- Alice has the admin role, which may have been deleted since. -/
def dbWithAdmin (deletedAt : Option Nat) : Db :=
  { db with
    roles := [adminRow deletedAt]
    userRoles := [(alice.id, adminRole)]
    permissions := ["users.read"]
    rolePermissions := [(adminRole, "users.read")] }

theorem rbac_dbWithAdmin (deletedAt : Option Nat) : (dbWithAdmin deletedAt).RbacConstraints where
  roleKeys := List.nodup_singleton _
  permissionKeys := List.nodup_singleton _
  userRoleKeys := List.nodup_singleton _
  rolePermissionKeys := List.nodup_singleton _
  assignedUser := by simp [dbWithAdmin, db]
  assignedRole := by simp [dbWithAdmin, adminRow]
  grantingRole := by simp [dbWithAdmin, adminRow]
  grantedPermission := by simp [dbWithAdmin]

/-- The token Alice gets at this time, and the actor made of it. -/
def adminToken (roles : List String) (permissions : List String) : service.lib.Token :=
  service.tm.signed service.lib (1000 * Time.second) 9 (service.lib.uuidString alice.id)
    alice.email roles permissions tokenKindAccess service.tm.accessTTL

def aliceActor (roles permissions : List String) : Actor :=
  ⟨service.lib.uuidString alice.id, alice.email, roles, permissions⟩

theorem permissions_agree_liveAdmin :
    ((Service.checkPermission alice.id "users.write").run (serve service.lib) (1000 * Time.second)
        (dbWithAdmin none)).1 =
        .ok ((aliceActor [adminRole] ["users.read"]).hasPermission "users.write") ∧
      ((aliceActor [adminRole] ["users.read"]).hasPermission "users.write" = true ↔
        (dbWithAdmin none).HoldsLiveAdmin alice.id ∨
          (dbWithAdmin none).Grants alice.id "users.write") := by
  have hissue : ((service.issueAccessForUser 9 alice.id).run (serve service.lib)
      (1000 * Time.second) (dbWithAdmin none)).1 = .ok (adminToken [adminRole] ["users.read"]) := by
    rw [Service.run_issueAccessForUser]
    rfl
  have hverify : ((newVerifier service.lib service.tm (adminToken [adminRole] ["users.read"])).run
      (serve service.lib) (1001 * Time.second) (dbWithAdmin none)).1 =
        .ok (aliceActor [adminRole] ["users.read"]) := rfl
  refine (permissions_agree_iff service (1000 * Time.second) (rbac_dbWithAdmin none) hissue hverify
    "users.write").mpr ?_
  rintro ⟨role, hrole, -, hgone, -⟩
  rw [List.mem_singleton.mp hrole] at hgone
  exact absurd rfl hgone

end Sample

/-- With a deleted admin role the database still says yes, and the token no. -/
theorem not_forall_permissions_agree :
    ¬∀ (s : Service) (db : Db) (u jti : Uuid) (now verifiedAt : Nat) (token : s.lib.Token)
      (actor : Actor) (permission : String), db.RbacConstraints →
      ((s.issueAccessForUser jti u).run (serve s.lib) now db).1 = .ok token →
      ((newVerifier s.lib s.tm token).run (serve s.lib) verifiedAt db).1 = .ok actor →
      ((Service.checkPermission u permission).run (serve s.lib) now db).1 =
        .ok (actor.hasPermission permission) := by
  intro hagree
  have hissue : ((Sample.service.issueAccessForUser 9 Sample.alice.id).run
      (serve Sample.service.lib) (1000 * Time.second) (Sample.dbWithAdmin (some 0))).1 =
        .ok (Sample.adminToken [] []) := by
    rw [Service.run_issueAccessForUser]
    rfl
  have hverify : ((newVerifier Sample.service.lib Sample.service.tm (Sample.adminToken [] [])).run
      (serve Sample.service.lib) (1001 * Time.second) (Sample.dbWithAdmin (some 0))).1 =
        .ok (Sample.aliceActor [] []) := rfl
  have hsame := hagree Sample.service (Sample.dbWithAdmin (some 0)) Sample.alice.id 9
    (1000 * Time.second) (1001 * Time.second) _ _ "users.write"
    (Sample.rbac_dbWithAdmin (some 0)) hissue hverify
  have hallowed : ((Service.checkPermission Sample.alice.id "users.write").run
      (serve Sample.service.lib) (1000 * Time.second) (Sample.dbWithAdmin (some 0))).1 =
        .ok true := by
    decide
  have hrefused : (Sample.aliceActor [] []).hasPermission "users.write" = false := by decide
  rw [hallowed, hrefused] at hsame
  cases hsame

end Skolva.Auth
