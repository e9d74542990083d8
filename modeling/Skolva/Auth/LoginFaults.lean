import Skolva.Auth.Login

/-! # Login while reads fail

`Login` looks up both factors of an account and drops the errors of the two
look-ups. Any call may fail here, each one for itself.
-/

namespace Skolva.Auth

open Effect

/-- The store where the calls picked by `fails`, counted from zero, report an error. -/
def serveFailing (lib : External) (fails : Nat → Op → Option CallError) :
    Nat → (op : Op) → Nat × Db → op.Resp × Nat × Db :=
  Program.withFaults (serve lib) fun index op => (fails index op).map .error

variable (s : Service) (fails : Nat → Op → Option CallError) (now : Nat) (db : Db)

/-- The result of `Login` on a state, with failing calls. -/
def Service.loginResult (draw : LoginDraw) (email : String) (password : Bytes) :
    Except Err (LoginResult s.lib.Token) :=
  ((s.login draw email password).run (serveFailing s.lib fails) now (0, db)).1

/-- A full access token is returned only for a user without a second factor. -/
def Service.LoginFailsClosed (draw : LoginDraw) (email : String) (password : Bytes) : Prop :=
  ∀ result token u, s.loginResult fails now db draw email password = .ok result →
    result.token = some token ∨ result.tempToken = some token →
    s.tm.AccessTokenFor s.lib u token → ¬db.TotpEnabled u ∧ ¬db.EmailEnabled u

/-- The credentials are those of an active account with a second factor. Each factor
it has is not seen, because its look-up fails, and every other read succeeds. -/
def Service.FactorsUnread (email : String) (password : Bytes) : Prop :=
  ∃ user, db.userWithEmail s.lib.lower email = some user ∧
    user.isActive = true ∧ verifyPassword s.lib user.passwordHash password = true ∧
    (db.TotpEnabled user.id ∨ db.EmailEnabled user.id) ∧
    fails 0 (.getUserByEmail email) = none ∧
    (db.TotpEnabled user.id → fails 1 (.getTOTPSecret user.id) ≠ none) ∧
    (db.EmailEnabled user.id → fails 2 (.metaGet user.id .email2faEnabled) ≠ none) ∧
    fails 3 (.listUserRoles user.id) = none ∧ fails 4 (.getPermissionsForUser user.id) = none

/-! ## The look-ups -/

section Calls

variable {fails} {index : Nat} {op : Op} (lib : External)

theorem serveFailing_none (hcall : fails index op = none) :
    serveFailing lib fails now op (index, db) =
      ((serve lib now op db).1, index + 1, (serve lib now op db).2) := by
  simp [serveFailing, Program.withFaults, hcall]

theorem serveFailing_some {cause : CallError} (hcall : fails index op = some cause) :
    serveFailing lib fails now op (index, db) = (.error cause, index + 1, db) := by
  simp [serveFailing, Program.withFaults, hcall]

end Calls

/-- The row `Login` works with says that TOTP is enabled. -/
def TotpSeen (u : Uuid) : Prop := fails 1 (.getTOTPSecret u) = none ∧ db.TotpEnabled u

/-- `Login` learns that codes by email are enabled. -/
def EmailSeen (u : Uuid) : Prop :=
  fails 2 (.metaGet u .email2faEnabled) = none ∧ db.EmailEnabled u

theorem run_getTOTPSecret_failing (lib : External) (u : Uuid) :
    ∃ row, (getTOTPSecret u).run (serveFailing lib fails) now (1, db) = (row, 2, db) ∧
      ((valueOr UserTotpSecret.zero row).isEnabled = true ↔ TotpSeen fails db u) := by
  rw [Program.run_perform]
  unfold TotpSeen
  cases hcall : fails 1 (.getTOTPSecret u) with
  | some cause =>
      refine ⟨_, serveFailing_some now db lib hcall, ?_⟩
      simp [UserTotpSecret.zero]
  | none =>
      refine ⟨_, serveFailing_none now db lib hcall, ?_⟩
      cases hrow : db.totp u with
      | none => simp [serve, one, hrow, Db.TotpEnabled, UserTotpSecret.zero]
      | some row => simp [serve, one, hrow, Db.TotpEnabled]

/-- Whether email codes are enabled, as a look-up that can fail reports it. -/
theorem Service.run_isEmail2FAEnabled_at (index : Nat) (u : Uuid) :
    (Service.isEmail2FAEnabled u).run (serveFailing s.lib fails) now (index, db) =
      (match fails index (.metaGet u .email2faEnabled) with
        | some cause => .error (.call cause)
        | none => .ok (db.usersMeta u .email2faEnabled = some textTrue), index + 1, db) := by
  unfold Service.isEmail2FAEnabled
  rw [Program.run_bind, Program.run_perform]
  cases hcall : fails index (.metaGet u .email2faEnabled) with
  | some cause => rw [serveFailing_some now db s.lib hcall]; rfl
  | none => rw [serveFailing_none now db s.lib hcall]; rfl

theorem run_isEmail2FAEnabled_failing (u : Uuid) :
    ∃ enabled, (Service.isEmail2FAEnabled u).run (serveFailing s.lib fails) now (2, db) =
        (enabled, 3, db) ∧
      (valueOr false enabled = true ↔ EmailSeen fails db u) := by
  refine ⟨_, s.run_isEmail2FAEnabled_at fails now db 2 u, ?_⟩
  unfold EmailSeen Db.EmailEnabled
  cases fails 2 (.metaGet u .email2faEnabled) with
  | some cause => simp
  | none => simp

/-! ## The two ways on -/

theorem run_loginAccess_granted (jti : Uuid) {u : UserByEmailRow}
    (hroles : fails 3 (.listUserRoles u.id) = none)
    (hperms : fails 4 (.getPermissionsForUser u.id) = none) :
    ∃ token, ((s.loginAccess jti u).run (serveFailing s.lib fails) now (3, db)).1 =
        .ok { token := some token, needs2FA := false, tempToken := none } ∧
      ∀ owner, s.tm.AccessTokenFor s.lib owner token ↔ u.id = owner := by
  unfold Service.loginAccess TokenManager.issueAccess
  rw [Program.run_bind, Program.run_perform, serveFailing_none now db s.lib hroles]
  simp only [serve, Program.run_bind, Program.run_perform,
    serveFailing_none now db s.lib hperms, TokenManager.run_issue]
  refine ⟨_, rfl, fun owner => ?_⟩
  rw [s.tm.accessTokenFor_issued s.lib]
  exact and_iff_right rfl

theorem run_loginAccess_refused (jti : Uuid) {u : UserByEmailRow}
    (hreads : ¬(fails 3 (.listUserRoles u.id) = none ∧
      fails 4 (.getPermissionsForUser u.id) = none)) :
    ∃ err, ((s.loginAccess jti u).run (serveFailing s.lib fails) now (3, db)).1 = .error err := by
  unfold Service.loginAccess
  rw [Program.run_bind, Program.run_perform]
  cases hroles : fails 3 (.listUserRoles u.id) with
  | some cause =>
      rw [serveFailing_some now db s.lib hroles]
      exact ⟨_, rfl⟩
  | none =>
      cases hperms : fails 4 (.getPermissionsForUser u.id) with
      | some cause =>
          rw [serveFailing_none now db s.lib hroles]
          simp only [serve, Program.run_bind, Program.run_perform,
            serveFailing_some now db s.lib hperms]
          exact ⟨_, rfl⟩
      | none => exact absurd ⟨hroles, hperms⟩ hreads

/-- With the right credentials `Login` goes by what the two look-ups have shown. -/
theorem run_login_authenticated {user : User} {email : String} {password : Bytes}
    (draw : LoginDraw) (huser : db.userWithEmail s.lib.lower email = some user)
    (hactive : user.isActive = true)
    (hpassword : verifyPassword s.lib user.passwordHash password = true)
    (hcall : fails 0 (.getUserByEmail email) = none) :
    (TotpSeen fails db user.id ∨ EmailSeen fails db user.id) ∧
        (∃ emailEnabled, (emailEnabled = true ↔ EmailSeen fails db user.id) ∧
          (s.login draw email password).run (serveFailing s.lib fails) now (0, db) =
            (s.loginPending draw user.byEmailRow emailEnabled).run
              (serveFailing s.lib fails) now (3, db)) ∨
      ¬(TotpSeen fails db user.id ∨ EmailSeen fails db user.id) ∧
        (s.login draw email password).run (serveFailing s.lib fails) now (0, db) =
          (s.loginAccess draw.jti user.byEmailRow).run (serveFailing s.lib fails) now (3, db) := by
  obtain ⟨row, hrow, hseenTotp⟩ := run_getTOTPSecret_failing fails now db s.lib user.id
  obtain ⟨enabled, henabled, hseenEmail⟩ := run_isEmail2FAEnabled_failing s fails now db user.id
  unfold Service.login
  rw [Program.run_bind, Program.run_perform, serveFailing_none now db s.lib hcall]
  simp only [serve, huser, Option.map_some, one, Nat.zero_add, User.byEmailRow_isActive,
    User.byEmailRow_passwordHash, User.byEmailRow_id, hactive, hpassword, if_true]
  rw [Program.run_bind, hrow, Program.run_bind, henabled]
  rw [← hseenTotp, ← hseenEmail, ← Bool.or_eq_true]
  by_cases hseen : ((valueOr UserTotpSecret.zero row).isEnabled || valueOr false enabled) = true
  · rw [if_pos hseen]
    exact .inl ⟨hseen, _, Iff.rfl, rfl⟩
  · rw [if_neg hseen]
    exact .inr ⟨hseen, rfl⟩

/-- Without them it reports an error and changes nothing. -/
theorem run_login_refused {email : String} {password : Bytes} (draw : LoginDraw)
    (hrefused : ¬∃ user, db.userWithEmail s.lib.lower email = some user ∧
      user.isActive = true ∧ verifyPassword s.lib user.passwordHash password = true ∧
      fails 0 (.getUserByEmail email) = none) :
    ∃ err, (s.login draw email password).run (serveFailing s.lib fails) now (0, db) =
      (.error err, 1, db) := by
  unfold Service.login
  rw [Program.run_bind, Program.run_perform]
  cases hcall : fails 0 (.getUserByEmail email) with
  | some cause =>
      rw [serveFailing_some now db s.lib hcall]
      cases cause <;> exact ⟨_, rfl⟩
  | none =>
      rw [serveFailing_none now db s.lib hcall]
      cases huser : db.userWithEmail s.lib.lower email with
      | none =>
          simp only [serve, huser, Option.map_none, one]
          exact ⟨_, rfl⟩
      | some user =>
          simp only [serve, huser, Option.map_some, one]
          by_cases hactive : user.isActive = true
          · by_cases hpassword : verifyPassword s.lib user.passwordHash password = true
            · exact absurd ⟨user, huser, hactive, hpassword, hcall⟩ hrefused
            · simp only [User.byEmailRow_isActive, User.byEmailRow_passwordHash, hactive,
                hpassword, if_true]
              exact ⟨_, rfl⟩
          · simp only [User.byEmailRow_isActive, hactive]
            exact ⟨_, rfl⟩

/-! ## When login fails closed -/

/-- Where a factor has been seen, or none is there, the token `Login` returns names
no user with a factor. -/
theorem loginFailsClosed_of_read {draw : LoginDraw} {email : String} {password : Bytes}
    (hread : ¬s.FactorsUnread fails db email password) :
    s.LoginFailsClosed fails now db draw email password := by
  intro result token u hresult hreturned haccess
  by_cases hcredentials : ∃ user, db.userWithEmail s.lib.lower email = some user ∧
      user.isActive = true ∧ verifyPassword s.lib user.passwordHash password = true ∧
      fails 0 (.getUserByEmail email) = none
  · obtain ⟨user, huser, hactive, hpassword, hcall⟩ := hcredentials
    unfold Service.loginResult at hresult
    rcases run_login_authenticated s fails now db draw huser hactive hpassword hcall with
      ⟨-, emailEnabled, -, hpending⟩ | ⟨hunseen, hgranted⟩
    · -- The answer is a pending token, which is no access token.
      have hkind : tokenKindPending2FA ≠ tokenKindAccess := by decide
      rw [hpending, s.run_loginPending] at hresult
      obtain rfl := Except.ok.inj hresult
      rcases hreturned with hreturned | hreturned
      · exact nomatch hreturned
      · rw [← Option.some.inj hreturned, s.tm.accessTokenFor_issued s.lib] at haccess
        exact absurd haccess.1 hkind
    · by_cases hreads : fails 3 (.listUserRoles user.id) = none ∧
          fails 4 (.getPermissionsForUser user.id) = none
      · obtain ⟨granted, htoken, howner⟩ := run_loginAccess_granted s fails now db
          draw.jti (u := user.byEmailRow) hreads.1 hreads.2
        rw [hgranted, htoken] at hresult
        obtain rfl := Except.ok.inj hresult
        rcases hreturned with hreturned | hreturned
        · obtain rfl := (howner u).mp (Option.some.inj hreturned ▸ haccess)
          rw [← not_or]
          intro hfactor
          exact hread ⟨user, huser, hactive, hpassword, hfactor, hcall,
            fun henabled hseen => hunseen (.inl ⟨hseen, henabled⟩),
            fun henabled hseen => hunseen (.inr ⟨hseen, henabled⟩), hreads⟩
        · exact nomatch hreturned
      · obtain ⟨err, herr⟩ := run_loginAccess_refused s fails now db draw.jti
          (u := user.byEmailRow) hreads
        rw [hgranted, herr] at hresult
        exact nomatch hresult
  · obtain ⟨err, herr⟩ := run_login_refused s fails now db draw hcredentials
    rw [Service.loginResult, herr] at hresult
    exact nomatch hresult

/-- Where every factor of the account is missed, `Login` grants full access. -/
theorem not_loginFailsClosed_of_unread (draw : LoginDraw) {email : String} {password : Bytes}
    (hunread : s.FactorsUnread fails db email password) :
    ¬s.LoginFailsClosed fails now db draw email password := by
  obtain ⟨user, huser, hactive, hpassword, hfactor, hcall, htotp, hemail, hroles, hperms⟩ := hunread
  intro hclosed
  have hunseen : ¬(TotpSeen fails db user.id ∨ EmailSeen fails db user.id) := by
    rintro (⟨hread, henabled⟩ | ⟨hread, henabled⟩)
    · exact htotp henabled hread
    · exact hemail henabled hread
  rcases run_login_authenticated s fails now db draw huser hactive hpassword hcall with
    ⟨hseen, -⟩ | ⟨-, hresult⟩
  · exact hunseen hseen
  · obtain ⟨token, hgranted, howner⟩ := run_loginAccess_granted s fails now db
      draw.jti (u := user.byEmailRow) hroles hperms
    have hopen := hclosed _ token user.id ((congrArg Prod.fst hresult).trans hgranted) (.inl rfl)
      ((howner user.id).mpr rfl)
    exact hfactor.elim hopen.1 hopen.2

/-- Alice has TOTP. Her row cannot be read, and `Login` grants full access. -/
theorem not_forall_loginFailsClosed :
    ¬∀ (s : Service) (fails : Nat → Op → Option CallError) (now : Nat) (db : Db)
      (draw : LoginDraw) (email : String) (password : Bytes),
      s.LoginFailsClosed fails now db draw email password := by
  intro hclosed
  let fails : Nat → Op → Option CallError :=
    fun index _ => if index = 1 then some .unavailable else none
  have henabled : Sample.dbWithTotp.TotpEnabled Sample.alice.id := ⟨Sample.totpRow, rfl, rfl⟩
  have hemail : ¬Sample.dbWithTotp.EmailEnabled Sample.alice.id := nofun
  have hunread : Sample.service.FactorsUnread fails Sample.dbWithTotp Sample.alice.email
      Sample.password :=
    ⟨Sample.alice, by decide, rfl, by decide, .inl henabled, rfl, fun _ => nofun,
      fun hpresent => absurd hpresent hemail, rfl, rfl⟩
  exact not_loginFailsClosed_of_unread Sample.service fails 0 Sample.dbWithTotp
    ⟨0, ⟨0, 0⟩⟩ hunread (hclosed _ _ _ _ _ _ _)

/-- Login fails closed unless it misses every factor of the account. -/
theorem loginFailsClosed_iff (draw : LoginDraw) (email : String) (password : Bytes) :
    s.LoginFailsClosed fails now db draw email password ↔
      ¬s.FactorsUnread fails db email password :=
  ⟨fun hclosed hunread => not_loginFailsClosed_of_unread s fails now db draw hunread hclosed,
    loginFailsClosed_of_read s fails now db⟩

/-! ## Login without failures -/

/-- The credentials are those of the active account of this user. -/
def Service.PasswordChecked (email : String) (password : Bytes) (u : Uuid) : Prop :=
  ∃ user, db.userWithEmail s.lib.lower email = some user ∧ user.id = u ∧
    user.isActive = true ∧ verifyPassword s.lib user.passwordHash password = true

theorem Service.passwordChecked_iff {user : User} {email : String} {password : Bytes}
    (huser : db.userWithEmail s.lib.lower email = some user) (hactive : user.isActive = true)
    (hpassword : verifyPassword s.lib user.passwordHash password = true) (u : Uuid) :
    s.PasswordChecked db email password u ↔ u = user.id := by
  constructor
  · rintro ⟨found, hfound, rfl, -⟩
    rw [Option.some.inj (huser.symm.trans hfound)]
  · rintro rfl
    exact ⟨user, huser, rfl, hactive, hpassword⟩

/-- Run without failures, `Login` refuses, or it has checked the password of an active
account and goes by the factors of the account. -/
theorem run_login_cases (draw : LoginDraw) (email : String) (password : Bytes) :
    ((¬∃ user, db.userWithEmail s.lib.lower email = some user ∧ user.isActive = true ∧
        verifyPassword s.lib user.passwordHash password = true) ∧
      ∃ err, (s.login draw email password).run (serve s.lib) now db = (.error err, db)) ∨
    ∃ user, db.userWithEmail s.lib.lower email = some user ∧ user.isActive = true ∧
      verifyPassword s.lib user.passwordHash password = true ∧
      ((db.TotpEnabled user.id ∨ db.EmailEnabled user.id) ∧
          (∃ emailEnabled, (emailEnabled = true ↔ db.EmailEnabled user.id) ∧
            (s.login draw email password).run (serve s.lib) now db =
              (s.loginPending draw user.byEmailRow emailEnabled).run (serve s.lib) now db) ∨
        ¬(db.TotpEnabled user.id ∨ db.EmailEnabled user.id) ∧
          (s.login draw email password).run (serve s.lib) now db =
            (s.loginAccess draw.jti user.byEmailRow).run (serve s.lib) now db) := by
  let never : Nat → Op → Option CallError := fun _ _ => none
  -- Where no call fails, the run with failures is the run without them.
  obtain ⟨count, hlogin⟩ := (s.login draw email password).run_withFaults_none (serve s.lib) now 0 db
  have hsame : ∀ {other : Prog (Except Err (LoginResult s.lib.Token))},
      (s.login draw email password).run (serveFailing s.lib never) now (0, db) =
        other.run (serveFailing s.lib never) now (3, db) →
      (s.login draw email password).run (serve s.lib) now db = other.run (serve s.lib) now db := by
    intro other hother
    obtain ⟨_, hrun⟩ := other.run_withFaults_none (serve s.lib) now 3 db
    have htriple := hlogin.symm.trans (hother.trans hrun)
    simp only [Prod.mk.injEq] at htriple
    exact Prod.ext htriple.1 htriple.2.2
  by_cases hcredentials : ∃ user, db.userWithEmail s.lib.lower email = some user ∧
      user.isActive = true ∧ verifyPassword s.lib user.passwordHash password = true ∧
      never 0 (.getUserByEmail email) = none
  · obtain ⟨user, huser, hactive, hpassword, hcall⟩ := hcredentials
    have hseen : TotpSeen never db user.id ∨ EmailSeen never db user.id ↔
        db.TotpEnabled user.id ∨ db.EmailEnabled user.id :=
      or_congr (and_iff_right rfl) (and_iff_right rfl)
    refine .inr ⟨user, huser, hactive, hpassword, ?_⟩
    rw [← hseen]
    rcases run_login_authenticated s never now db draw huser hactive hpassword hcall with
      ⟨hfactor, emailEnabled, hemail, hpending⟩ | ⟨hunseen, hgranted⟩
    · exact .inl ⟨hfactor, emailEnabled, hemail.trans (and_iff_right rfl), hsame hpending⟩
    · exact .inr ⟨hunseen, hsame hgranted⟩
  · obtain ⟨err, herr⟩ := run_login_refused s never now db draw hcredentials
    have htriple := hlogin.symm.trans herr
    simp only [Prod.mk.injEq] at htriple
    refine .inl ⟨?_, err, Prod.ext htriple.1 htriple.2.2⟩
    rintro ⟨user, huser, hactive, hpassword⟩
    exact hcredentials ⟨user, huser, hactive, hpassword, rfl⟩

/-- The answer of `Login` for an account that has none. -/
theorem run_loginAccess (jti : Uuid) (u : UserByEmailRow) :
    ∃ roles perms, (s.loginAccess jti u).run (serve s.lib) now db =
      (.ok { token := some (s.tm.signed s.lib now jti (s.lib.uuidString u.id) u.email roles perms
              tokenKindAccess s.tm.accessTTL), needs2FA := false, tempToken := none }, db) := by
  unfold Service.loginAccess TokenManager.issueAccess
  simp only [Program.run_bind, Program.run_perform, serve, TokenManager.run_issue]
  exact ⟨_, _, rfl⟩

end Skolva.Auth
