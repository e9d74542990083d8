import Skolva.Auth.Calls
import Skolva.Auth.PasswordKeys
import Skolva.Auth.Login

/-! # Passwords in a run of calls

Who can log in with which password, after any calls of the service. An address belongs
to one live account at most, and the password of an account is the one it was
registered with or has been reset to last.
-/

namespace Skolva.Auth

open Effect Time

variable (s : Service)

/-! ## Accounts and their addresses -/

/-- The row is in the index `ux_users_email_active`. -/
def User.HoldsEmail (user : User) : Prop := user.deletedAt = none ∧ user.anonymizedAt = none

/-- The rows satisfy `ux_users_email_active`. -/
def Db.EmailUnique (lower : String → String) (db : Db) : Prop :=
  db.users.Pairwise fun one other =>
    one.HoldsEmail → other.HoldsEmail → lower one.email ≠ lower other.email

/-- The account can log in, as far as its row goes. -/
def User.LogsInAs (user : User) (lower : String → String) (email : String) : Prop :=
  user.HoldsEmail ∧ user.isActive = true ∧ lower user.email = lower email

abbrev Passwords := Uuid → Option Bytes

/-- Registering and resetting set a password. -/
def Service.stepPasswords (entry : s.CallEntry) (passwords : Passwords) : Passwords :=
  match entry.request, entry.reply with
  | .register id _ _ _ password _ _, .ok _ => Function.update passwords id (some password)
  | .resetPassword _ userID _ newPassword, .ok _ =>
      Function.update passwords userID (some newPassword)
  | _, _ => passwords

/-- The passwords after a history. -/
def Service.passwordsAfter (first : Passwords) (history : List s.CallEntry) : Passwords :=
  history.foldr s.stepPasswords first

/-- Every stored hash was made from the password of the account. -/
def Service.HashesPasswords (db : Db) (passwords : Passwords) : Prop :=
  ∀ user ∈ db.users, ∃ password ∈ passwords user.id, ∃ salt,
    hashPassword s.lib salt password = .ok user.passwordHash

/-- The token names the user. -/
def Service.TokenOf (result : LoginResult s.lib.Token) (user : User) : Prop :=
  ∃ token claims, (result.token = some token ∨ result.tempToken = some token) ∧
    s.lib.jwtParse s.tm.secret token = some claims ∧
    claims.subject = s.lib.uuidString user.id

/-- Who logs in with this address and password, and whether the address is taken. -/
structure Service.PasswordAuthenticates (now : Nat) (db : Db) (passwords : Passwords)
    (email : String) (password : Bytes) : Prop where
  accepted : ∀ draw, (∃ result,
      ((s.login draw email password).run (serve s.lib) now db).1 = .ok result) ↔
    ∃ user ∈ db.users, user.LogsInAs s.lib.lower email ∧ passwords user.id = some password
  subject : ∀ draw result, ((s.login draw email password).run (serve s.lib) now db).1 = .ok result →
    ∃ user ∈ db.users, user.LogsInAs s.lib.lower email ∧ passwords user.id = some password ∧
      (∀ other ∈ db.users, other.LogsInAs s.lib.lower email →
        passwords other.id = some password → other = user) ∧
      s.TokenOf result user
  conflict : ∀ id salt actorID initial firstName lastName hash actor,
    (∃ message, ((s.register id salt actorID email initial firstName lastName).run (serve s.lib)
      now db).1 = .error (.conflict message)) ↔
    ¬Db.EmailUnique s.lib.lower
      { db with users := db.users ++ [newUser now id email hash firstName lastName actor] }

/-- The password is not that of the account, but `bcrypt` reads the same key of both. -/
def Service.SharesKey (db : Db) (passwords : Passwords) (email : String)
    (password : Bytes) : Prop :=
  ∃ user ∈ db.users, user.LogsInAs s.lib.lower email ∧
    ∃ other ∈ passwords user.id, other ≠ password ∧ bcryptKey password = bcryptKey other

variable {s}

/-! ## The rows of `users` -/

section Rows

variable {db : Db} {lower : String → String} {email : String}

/-- The row `GetUserByEmail` finds is the only one that holds the address. -/
theorem userWithEmail_eq_some_iff (hunique : db.EmailUnique lower) (user : User) :
    db.userWithEmail lower email = some user ↔
      user ∈ db.users ∧ user.HoldsEmail ∧ lower user.email = lower email := by
  unfold Db.userWithEmail
  unfold Db.EmailUnique at hunique
  generalize db.users = users at hunique ⊢
  induction users with
  | nil => simp
  | cons head rest ih =>
      obtain ⟨hhead, hrest⟩ := List.pairwise_cons.mp hunique
      by_cases hfound : lower head.email = lower email ∧ head.deletedAt = none ∧
          head.anonymizedAt = none
      · rw [List.find?_cons_of_pos (by simpa using hfound), Option.some.injEq, List.mem_cons]
        constructor
        · rintro rfl
          exact ⟨.inl rfl, hfound.2, hfound.1⟩
        · rintro ⟨rfl | hmem, hholds, hlower⟩
          · rfl
          · exact absurd (hfound.1.trans hlower.symm) (hhead user hmem hfound.2 hholds)
      · rw [List.find?_cons_of_neg (by simpa using hfound), ih hrest, List.mem_cons]
        constructor
        · rintro ⟨hmem, hholds⟩
          exact ⟨.inr hmem, hholds⟩
        · rintro ⟨rfl | hmem, hholds, hlower⟩
          · exact absurd ⟨hlower, hholds⟩ hfound
          · exact ⟨hmem, hholds, hlower⟩

/-- A new account fits the index exactly if no row holds its address. -/
theorem emailUnique_append (hunique : db.EmailUnique lower) {user : User}
    (hholds : user.HoldsEmail) :
    Db.EmailUnique lower { db with users := db.users ++ [user] } ↔
      (db.userWithEmail lower user.email).isSome = false := by
  rw [← Bool.not_eq_true, Option.isSome_iff_exists]
  simp only [userWithEmail_eq_some_iff hunique]
  unfold Db.EmailUnique
  rw [List.pairwise_append]
  constructor
  · rintro ⟨-, -, hapart⟩ ⟨other, hother, hheld, hlower⟩
    exact hapart other hother user (List.mem_singleton_self user) hheld hholds hlower
  · intro hfree
    refine ⟨hunique, List.pairwise_singleton _ _, ?_⟩
    intro other hother added hadded hheld _ hlower
    rw [List.mem_singleton.mp hadded] at hlower
    exact hfree ⟨other, hother, hheld, hlower⟩

/-- Changing a row keeps addresses unique where it keeps the address, and does not bring
the row back. -/
theorem emailUnique_updateLiveUser (hunique : db.EmailUnique lower) (now : Nat) (u : Uuid)
    {change : User → User} (hemail : ∀ user, (change user).email = user.email)
    (hholds : ∀ user, (change user).HoldsEmail → user.HoldsEmail) :
    (db.updateLiveUser now u change).EmailUnique lower := by
  unfold Db.EmailUnique Db.updateLiveUser
  refine hunique.map _ fun one other hapart => ?_
  have hkeeps : ∀ user : User,
      (if user.id = u ∧ user.deletedAt = none then (change user).touch now else user).email =
          user.email ∧
        ((if user.id = u ∧ user.deletedAt = none then (change user).touch now
          else user).HoldsEmail → user.HoldsEmail) := by
    intro user
    split
    · exact ⟨hemail user, hholds user⟩
    · exact ⟨rfl, id⟩
  rw [(hkeeps one).1, (hkeeps other).1]
  exact fun hone hother => hapart ((hkeeps one).2 hone) ((hkeeps other).2 hother)

theorem emailUnique_serve (lib : External) (now : Nat) (op : Op) (hunique : db.EmailUnique lib.lower) :
    (serve lib now op db).2.EmailUnique lib.lower := by
  cases op with
  | createUser id email passwordHash firstName lastName actor =>
      simp only [serve]
      split
      · exact hunique
      next hfresh =>
          rw [Bool.or_eq_true, not_or, Bool.not_eq_true, Bool.not_eq_true] at hfresh
          exact (emailUnique_append hunique ⟨rfl, rfl⟩).mpr hfresh.2
  | updateUser | updatePassword =>
      exact emailUnique_updateLiveUser hunique now _ (fun _ => rfl) fun _ hholds => hholds
  | softDeleteUser =>
      exact emailUnique_updateLiveUser hunique now _ (fun _ => rfl)
        fun _ hholds => (Option.some_ne_none now hholds.1).elim
  | _ => exact hunique

end Rows

/-! ## One call -/

section Step

variable {db : Db} (now : Nat) {passwords : Passwords}

/-- `Register` reports a conflict, refuses for another reason, or adds the account. -/
theorem run_register (id : Uuid) (salt : Nat) (actorID : Uuid) (email : String) (password : Bytes)
    (firstName lastName : String) :
    ((db.userWithEmail s.lib.lower email).isSome = true ∧
      ∃ message, (s.register id salt actorID email password firstName lastName).run (serve s.lib)
        now db = (.error (.conflict message), db)) ∨
    (db.userWithEmail s.lib.lower email).isSome = false ∧
      ((∃ err, (∀ message, err ≠ .conflict message) ∧
        (s.register id salt actorID email password firstName lastName).run (serve s.lib) now db =
          (.error err, db)) ∨
      ∃ hash response, hashPassword s.lib salt password = .ok hash ∧
        id ∉ db.users.map User.id ∧
        (s.register id salt actorID email password firstName lastName).run (serve s.lib) now db =
          (.ok response, { db with users := db.users ++
            [newUser now id email hash firstName lastName (actorNull actorID)] })) := by
  unfold Service.register
  rw [Program.run_bind, Program.run_perform]
  simp only [serve]
  cases htaken : (db.userWithEmail s.lib.lower email).isSome with
  | true => exact .inl ⟨rfl, _, rfl⟩
  | false =>
      refine .inr ⟨rfl, ?_⟩
      cases hhash : hashPassword s.lib salt password with
      | error err =>
          refine .inl ?_
          cases err <;> exact ⟨.validation _, by simp, rfl⟩
      | ok hash =>
          dsimp only
          rw [Program.run_bind, Program.run_perform]
          simp only [serve, htaken, Bool.or_false]
          by_cases hid : (db.users.any fun user => user.id = id) = true
          · rw [if_pos hid]
            exact .inl ⟨.call _, by simp, rfl⟩
          · rw [if_neg hid]
            refine .inr ⟨hash, _, rfl, ?_, rfl⟩
            simpa using hid

/-- What leaves identifiers and hashes alone keeps them hashing the passwords. -/
theorem hashesPasswords_updateLiveUser (hhashes : s.HashesPasswords db passwords) (u : Uuid)
    {change : User → User} (hid : ∀ user, (change user).id = user.id)
    (hhash : ∀ user, (change user).passwordHash = user.passwordHash) :
    s.HashesPasswords (db.updateLiveUser now u change) passwords := by
  intro user hmem
  obtain ⟨old, hold, rfl⟩ := List.mem_map.mp hmem
  split
  · obtain ⟨password, hpassword, salt, hmade⟩ := hhashes old hold
    refine ⟨password, ?_, salt, ?_⟩
    · rw [show ((change old).touch now).id = old.id from hid old]
      exact hpassword
    · rw [show ((change old).touch now).passwordHash = old.passwordHash from hhash old]
      exact hmade
  · exact hhashes old hold

/-- A call that sets no password keeps the hashes of all of them. -/
theorem hashesPasswords_of_other (request : ServiceCall)
    (hregister : ∀ id salt actorID email password firstName lastName,
      request ≠ .register id salt actorID email password firstName lastName)
    (hreset : ∀ salt userID token newPassword,
      request ≠ .resetPassword salt userID token newPassword)
    (hhashes : s.HashesPasswords db passwords) :
    s.HashesPasswords (s.processCall now request db).2 passwords := by
  refine Service.processCall_preserves (motive := fun store => s.HashesPasswords store passwords)
    (fun op store hop hstore => ?_) hhashes
  cases op with
  | createUser =>
      obtain ⟨salt, actorID, password, hrequest⟩ := hop
      exact (hregister _ _ _ _ _ _ _ hrequest).elim
  | updatePassword =>
      obtain ⟨salt, token, newPassword, hrequest⟩ := hop
      exact (hreset _ _ _ _ hrequest).elim
  | updateUser | softDeleteUser =>
      exact hashesPasswords_updateLiveUser now hstore _ (fun _ => rfl) fun _ => rfl
  | _ => exact hstore

/-- A new account hashes its own password. -/
theorem hashesPasswords_create (hhashes : s.HashesPasswords db passwords) {new : User}
    (hfresh : new.id ∉ db.users.map User.id) {salt : Nat} {password : Bytes}
    (hhash : hashPassword s.lib salt password = .ok new.passwordHash) :
    s.HashesPasswords { db with users := db.users ++ [new] }
      (Function.update passwords new.id (some password)) := by
  intro user hmem
  rcases List.mem_append.mp hmem with hold | hnew
  · have hne : user.id ≠ new.id := fun heq => hfresh (heq ▸ List.mem_map_of_mem hold)
    obtain ⟨old, hpassword, hmade⟩ := hhashes user hold
    exact ⟨old, (Function.update_of_ne hne ..).trans hpassword, hmade⟩
  · rw [List.mem_singleton.mp hnew]
    exact ⟨password, Function.update_self .., salt, hhash⟩

/-- A new password of a live account, which is the only row with its identifier. -/
theorem hashesPasswords_updatePassword (hhashes : s.HashesPasswords db passwords)
    (hkey : db.KeyUnique) {u : Uuid} (hlive : (db.liveUser u).isSome = true) {salt : Nat}
    {password : Bytes} {hash : Text} (hhash : hashPassword s.lib salt password = .ok hash) :
    s.HashesPasswords (db.updateLiveUser now u fun user => { user with passwordHash := hash })
      (Function.update passwords u (some password)) := by
  intro user hmem
  obtain ⟨old, hold, rfl⟩ := List.mem_map.mp hmem
  by_cases howner : old.id = u ∧ old.deletedAt = none
  · rw [if_pos howner]
    refine ⟨password, ?_, salt, hhash⟩
    change Function.update passwords u (some password) old.id = _
    rw [howner.1, Function.update_self]
  · rw [if_neg howner]
    have hne : old.id ≠ u := by
      intro heq
      obtain ⟨live, hfound⟩ := Option.isSome_iff_exists.mp hlive
      have hmatch := List.find?_some hfound
      simp only [decide_eq_true_eq] at hmatch
      have hsame : live = old := List.inj_on_of_nodup_map hkey
        (List.mem_of_find?_eq_some hfound) hold (hmatch.1.trans heq.symm)
      exact howner ⟨heq, hsame ▸ hmatch.2⟩
    obtain ⟨made, hpassword, hmade⟩ := hhashes old hold
    exact ⟨made, (Function.update_of_ne hne ..).trans hpassword, hmade⟩

/-- The hashes follow the passwords through every call. -/
theorem hashesPasswords_step {entry : s.CallEntry}
    (hprocess : s.processCall entry.instant entry.request entry.before =
      (entry.reply, entry.after)) (hkey : entry.before.KeyUnique)
    (hhashes : s.HashesPasswords entry.before passwords) :
    s.HashesPasswords entry.after (s.stepPasswords entry passwords) := by
  obtain ⟨before, now, request, reply, after⟩ := entry
  dsimp only at hprocess hkey hhashes ⊢
  have hother := fun hregister hreset =>
    hashesPasswords_of_other now request hregister hreset hhashes
  rw [hprocess] at hother
  unfold Service.stepPasswords
  cases request with
  | register id salt actorID email password firstName lastName =>
      obtain ⟨rfl, rfl⟩ := Service.processCall_answered rfl hprocess
      rcases run_register now id salt actorID email password firstName lastName with
        ⟨-, message, hrun⟩ | ⟨-, ⟨err, -, hrun⟩ | ⟨hash, response, hhash, hfresh, hrun⟩⟩
      · rw [hrun]
        exact hhashes
      · rw [hrun]
        exact hhashes
      · rw [hrun]
        exact hashesPasswords_create hhashes hfresh hhash
  | resetPassword salt userID token newPassword =>
      obtain ⟨rfl, rfl⟩ := Service.processCall_answered rfl hprocess
      rcases s.run_resetPassword now before salt userID token newPassword with
        ⟨hlive, -, hrun⟩ | ⟨-, err, hrun⟩
      · rw [hrun, s.run_completeReset]
        cases hhash : hashPassword s.lib salt newPassword with
        | error err => exact hhashes
        | ok hash => exact hashesPasswords_updatePassword now hhashes hkey hlive hhash
      · rw [hrun]
        exact hhashes
  | _ => exact hother nofun nofun

end Step

/-! ## Logging in -/

section Login

variable {db : Db} (now : Nat) {passwords : Passwords} {digest : (salt cost : Nat) → Bytes → Text}

/-- An accepted login returns a token of the account it has found. -/
theorem tokenOf_login {draw : LoginDraw} {email : String} {password : Bytes}
    {result : LoginResult s.lib.Token}
    (hlogin : ((s.login draw email password).run (serve s.lib) now db).1 = .ok result) :
    ∃ user, db.userWithEmail s.lib.lower email = some user ∧ user.isActive = true ∧
      verifyPassword s.lib user.passwordHash password = true ∧ s.TokenOf result user := by
  rcases run_login_cases s now db draw email password with ⟨-, err, herr⟩ |
    ⟨user, huser, hactive, hpassword, ⟨-, emailEnabled, -, hpending⟩ | ⟨-, hgranted⟩⟩
  · rw [herr] at hlogin
    cases hlogin
  · rw [hpending, s.run_loginPending] at hlogin
    obtain rfl := Except.ok.inj hlogin
    exact ⟨user, huser, hactive, hpassword, _, _, .inr rfl, s.tm.parse_signed s.lib .., rfl⟩
  · obtain ⟨roles, perms, htoken⟩ := run_loginAccess s now db draw.jti user.byEmailRow
    rw [hgranted, htoken] at hlogin
    obtain rfl := Except.ok.inj hlogin
    exact ⟨user, huser, hactive, hpassword, _, _, .inl rfl, s.tm.parse_signed s.lib .., rfl⟩

/-- A login is accepted exactly if an account is found and takes the password. -/
theorem login_isOk_iff (draw : LoginDraw) (email : String) (password : Bytes) :
    (∃ result, ((s.login draw email password).run (serve s.lib) now db).1 = .ok result) ↔
      ∃ user, db.userWithEmail s.lib.lower email = some user ∧ user.isActive = true ∧
        verifyPassword s.lib user.passwordHash password = true := by
  constructor
  · rintro ⟨result, hlogin⟩
    obtain ⟨user, huser, hactive, hpassword, -⟩ := tokenOf_login now hlogin
    exact ⟨user, huser, hactive, hpassword⟩
  · intro hcredentials
    rcases run_login_cases s now db draw email password with ⟨hnone, -⟩ |
      ⟨user, -, -, -, ⟨-, emailEnabled, -, hpending⟩ | ⟨-, hgranted⟩⟩
    · exact absurd hcredentials hnone
    · exact ⟨_, hpending ▸ s.run_loginPending ..⟩
    · obtain ⟨roles, perms, htoken⟩ := run_loginAccess s now db draw.jti user.byEmailRow
      exact ⟨_, congrArg Prod.fst (hgranted.trans htoken)⟩

/-- The account with this address, and the passwords its hash accepts. -/
theorem credentials_iff (hbcrypt : s.lib.HashesKey digest) (hunique : db.EmailUnique s.lib.lower)
    (hhashes : s.HashesPasswords db passwords) (email : String) (entered : Bytes) (user : User) :
    (db.userWithEmail s.lib.lower email = some user ∧ user.isActive = true ∧
        verifyPassword s.lib user.passwordHash entered = true) ↔
      user ∈ db.users ∧ user.LogsInAs s.lib.lower email ∧
        ∃ password ∈ passwords user.id, bcryptKey entered = bcryptKey password := by
  rw [userWithEmail_eq_some_iff hunique]
  constructor
  · rintro ⟨⟨hmem, hholds, hlower⟩, hactive, hverified⟩
    obtain ⟨password, hpassword, salt, hhash⟩ := hhashes user hmem
    exact ⟨hmem, ⟨hholds, hactive, hlower⟩, password, hpassword,
      (verifyPassword_iff_bcryptKey hbcrypt hhash entered).mp hverified⟩
  · rintro ⟨hmem, ⟨hholds, hactive, hlower⟩, password, hpassword, hkey⟩
    obtain ⟨hashed, hhashed, salt, hhash⟩ := hhashes user hmem
    obtain rfl : password = hashed := Option.some.inj (hpassword.symm.trans hhashed)
    exact ⟨⟨hmem, hholds, hlower⟩, hactive,
      (verifyPassword_iff_bcryptKey hbcrypt hhash entered).mpr hkey⟩

/-- An address is taken exactly if one more account with it does not fit the index. -/
theorem register_conflict_iff (hunique : db.EmailUnique s.lib.lower) (id : Uuid) (salt : Nat)
    (actorID : Uuid) (email : String) (initial : Bytes) (firstName lastName : String) (hash : Text)
    (actor : Option Uuid) :
    (∃ message, ((s.register id salt actorID email initial firstName lastName).run (serve s.lib)
      now db).1 = .error (.conflict message)) ↔
    ¬Db.EmailUnique s.lib.lower
      { db with users := db.users ++ [newUser now id email hash firstName lastName actor] } := by
  have hfits : Db.EmailUnique s.lib.lower
      { db with users := db.users ++ [newUser now id email hash firstName lastName actor] } ↔
      (db.userWithEmail s.lib.lower email).isSome = false := emailUnique_append hunique ⟨rfl, rfl⟩
  rw [hfits]
  rcases run_register now id salt actorID email initial firstName lastName with
    ⟨htaken, message, hrun⟩ | ⟨hfree, ⟨err, hother, hrun⟩ | ⟨_, response, -, -, hrun⟩⟩
  · rw [hrun, htaken]
    exact iff_of_true ⟨message, rfl⟩ Bool.noConfusion
  · rw [hrun, hfree]
    refine iff_of_false ?_ fun hneg => hneg rfl
    rintro ⟨message, herr⟩
    exact hother message (Except.error.inj herr)
  · rw [hrun, hfree]
    refine iff_of_false ?_ fun hneg => hneg rfl
    rintro ⟨message, herr⟩
    cases herr

/-- Where the hashes are those of the passwords, the password of the account logs in, and
nothing else does but what `bcrypt` does not tell from it. -/
theorem passwordAuthenticates_iff (hbcrypt : s.lib.HashesKey digest)
    (hunique : db.EmailUnique s.lib.lower) (hhashes : s.HashesPasswords db passwords)
    (email : String) (password : Bytes) :
    s.PasswordAuthenticates now db passwords email password ↔
      ¬s.SharesKey db passwords email password := by
  have hcredentials := credentials_iff hbcrypt hunique hhashes email
  have halone : ∀ one ∈ db.users, ∀ other ∈ db.users, one.LogsInAs s.lib.lower email →
      other.LogsInAs s.lib.lower email → other = one := by
    intro one hone other hother hlogs hlogsOther
    have hfound : db.userWithEmail s.lib.lower email = some one :=
      (userWithEmail_eq_some_iff hunique one).mpr ⟨hone, hlogs.1, hlogs.2.2⟩
    have hfoundOther : db.userWithEmail s.lib.lower email = some other :=
      (userWithEmail_eq_some_iff hunique other).mpr ⟨hother, hlogsOther.1, hlogsOther.2.2⟩
    exact Option.some.inj (hfoundOther.symm.trans hfound)
  constructor
  · rintro hauthenticates ⟨user, hmem, hlogs, other, hother, hne, hkey⟩
    have haccepted := (login_isOk_iff now ⟨0, ⟨0, 0⟩⟩ email password).mpr
      ⟨user, (hcredentials password user).mpr ⟨hmem, hlogs, other, hother, hkey⟩⟩
    obtain ⟨found, hfound, hlogsFound, hpassword⟩ :=
      (hauthenticates.accepted ⟨0, ⟨0, 0⟩⟩).mp haccepted
    obtain rfl := halone user hmem found hfound hlogs hlogsFound
    exact hne (Option.some.inj (hother.symm.trans hpassword))
  · intro halike
    -- An accepted password is the one of the account, or it shares its key.
    have hexact : ∀ user ∈ db.users, user.LogsInAs s.lib.lower email →
        ∀ other ∈ passwords user.id, bcryptKey password = bcryptKey other →
        passwords user.id = some password := by
      intro user hmem hlogs other hother hkey
      by_cases hsame : other = password
      · exact hsame ▸ hother
      · exact absurd ⟨user, hmem, hlogs, other, hother, hsame, hkey⟩ halike
    refine ⟨fun draw => ?_, fun draw result hlogin => ?_,
      fun id salt actorID initial => register_conflict_iff now hunique id salt actorID email initial⟩
    · rw [login_isOk_iff]
      constructor
      · rintro ⟨user, hfound⟩
        obtain ⟨hmem, hlogs, other, hother, hkey⟩ := (hcredentials password user).mp hfound
        exact ⟨user, hmem, hlogs, hexact user hmem hlogs other hother hkey⟩
      · rintro ⟨user, hmem, hlogs, hpassword⟩
        exact ⟨user, (hcredentials password user).mpr ⟨hmem, hlogs, password, hpassword, rfl⟩⟩
    · obtain ⟨user, huser, hactive, hverified, htoken⟩ := tokenOf_login now hlogin
      obtain ⟨hmem, hlogs, other, hother, hkey⟩ :=
        (hcredentials password user).mp ⟨huser, hactive, hverified⟩
      exact ⟨user, hmem, hlogs, hexact user hmem hlogs other hother hkey,
        fun other hother hlogsOther _ => halone user hmem other hother hlogs hlogsOther, htoken⟩

end Login

/-! ## A run of calls -/

section Run

variable {start last : Db} {history : List s.CallEntry} {first : Passwords}
  {digest : (salt cost : Nat) → Bytes → Text}

theorem keyUnique_callRun (hrun : s.CallRun start history last) (hkey : start.KeyUnique) :
    last.KeyUnique :=
  Serial.invariant (motive := fun _ db => db.KeyUnique) hrun hkey fun _ _ now _ _ hbefore _ =>
    Service.processCall_preserves (fun op _ _ hstore => Db.keyUnique_serve s.lib now op hstore)
      hbefore

theorem emailUnique_callRun (hrun : s.CallRun start history last)
    (hunique : start.EmailUnique s.lib.lower) : last.EmailUnique s.lib.lower :=
  Serial.invariant (motive := fun _ db => db.EmailUnique s.lib.lower) hrun hunique
    fun _ _ now _ _ hbefore _ =>
      Service.processCall_preserves (fun op _ _ hstore => emailUnique_serve s.lib now op hstore)
        hbefore

/-- After a run the hashes are those of the last passwords. -/
theorem hashesPasswords_callRun (hrun : s.CallRun start history last) (hkey : start.KeyUnique)
    (hhashes : s.HashesPasswords start first) :
    s.HashesPasswords last (s.passwordsAfter first history) := by
  refine Serial.invariant
    (motive := fun history db => s.HashesPasswords db (s.passwordsAfter first history))
    hrun hhashes ?_
  intro earlier before now request hearlier hbefore _
  have hprocess := s.processCall_entryAt now request before
  exact hashesPasswords_step hprocess (keyUnique_callRun hearlier hkey) hbefore

/-- After every run, an address and a password log in exactly if the password is the last
one of the one account that holds the address, unless it is another one of which `bcrypt` reads
the same key. -/
theorem passwordAuthenticates_run_iff (hbcrypt : s.lib.HashesKey digest)
    (hrun : s.CallRun start history last) (hkey : start.KeyUnique)
    (hunique : start.EmailUnique s.lib.lower) (hhashes : s.HashesPasswords start first)
    (now : Nat) (email : String) (password : Bytes) :
    s.PasswordAuthenticates now last (s.passwordsAfter first history) email password ↔
      ¬s.SharesKey last (s.passwordsAfter first history) email password :=
  passwordAuthenticates_iff now hbcrypt (emailUnique_callRun hrun hunique)
    (hashesPasswords_callRun hrun hkey hhashes) email password

end Run

namespace Sample

/-- The installation with a `bcrypt` on keys. -/
@[reducible] def keyedService : Service where
  lib := keyed
  tm := service.tm

def longPassword : Bytes := letters 72

/-- Alice has chosen the longest password there is. -/
def dbWithLongPassword : Db :=
  { db with users := [{ alice with passwordHash := digest 0 10 (bcryptKey longPassword) }] }

def longPasswords : Passwords := fun _ => some longPassword

theorem keyUnique_dbWithLongPassword : dbWithLongPassword.KeyUnique :=
  List.nodup_singleton _

theorem emailUnique_dbWithLongPassword (lower : String → String) :
    dbWithLongPassword.EmailUnique lower :=
  List.pairwise_singleton _ _

theorem hashesPasswords_dbWithLongPassword :
    keyedService.HashesPasswords dbWithLongPassword longPasswords := by
  intro user hmem
  rw [List.mem_singleton.mp hmem]
  exact ⟨longPassword, rfl, 0, by decide +kernel⟩

/-- Alice is deleted, and someone registers with her address. -/
def removed : keyedService.CallEntry :=
  keyedService.entryAt 0 (.deleteUser 2 alice.id) dbWithLongPassword

def registered : keyedService.CallEntry :=
  keyedService.entryAt 1
    (.register 3 0 2 alice.email newPassword "Alina" "Ahrens") removed.after

theorem run_registered :
    keyedService.CallRun dbWithLongPassword [registered, removed] registered.after := by
  have hremoved := Service.callRun_first (s := keyedService) dbWithLongPassword removed.instant
    removed.request
  exact Service.callRun_next hremoved registered.instant registered.request (by decide)

theorem not_sharesKey_registered : ¬keyedService.SharesKey registered.after
    (keyedService.passwordsAfter longPasswords [registered, removed]) alice.email newPassword := by
  rintro ⟨user, hmem, hlogs, other, hother, hne, -⟩
  rcases List.mem_cons.mp hmem with rfl | hmem
  · cases hlogs.1.1
  · obtain rfl := List.mem_singleton.mp hmem
    exact hne (Option.some.inj hother).symm

/-- With the password that was set last, whoever registered last logs in. -/
theorem passwordAuthenticates_registered :
    keyedService.PasswordAuthenticates 2 registered.after
      (keyedService.passwordsAfter longPasswords [registered, removed]) alice.email newPassword :=
  (passwordAuthenticates_run_iff (s := keyedService) keyed_hashesKey run_registered
    keyUnique_dbWithLongPassword (emailUnique_dbWithLongPassword _)
    hashesPasswords_dbWithLongPassword 2 alice.email newPassword).mpr not_sharesKey_registered

/-- One letter more than the password of Alice. -/
theorem sharesKey_longer :
    keyedService.SharesKey dbWithLongPassword longPasswords alice.email (letters 73) := by
  have hlogs : ∃ user ∈ dbWithLongPassword.users,
      user.LogsInAs keyedService.lib.lower alice.email :=
    ⟨_, List.mem_singleton_self _, ⟨rfl, rfl⟩, rfl, rfl⟩
  obtain ⟨user, hmem, hlogs⟩ := hlogs
  refine ⟨user, hmem, hlogs, longPassword, rfl, ?_, ?_⟩
  · decide +kernel
  · decide +kernel

end Sample

/-- The password of an account, with one more byte, logs in too. -/
theorem not_forall_passwordAuthenticates :
    ¬∀ (s : Service) (digest : (salt cost : Nat) → Bytes → Text) (start last : Db)
      (history : List s.CallEntry) (first : Passwords) (now : Nat) (email : String)
      (password : Bytes), s.lib.HashesKey digest →
      s.CallRun start history last → start.KeyUnique → start.EmailUnique s.lib.lower →
      s.HashesPasswords start first →
      s.PasswordAuthenticates now last (s.passwordsAfter first history) email password := by
  intro hall
  have hlogin : Sample.keyedService.PasswordAuthenticates 0 Sample.dbWithLongPassword
      Sample.longPasswords Sample.alice.email (Sample.letters 73) :=
    hall Sample.keyedService Sample.digest Sample.dbWithLongPassword Sample.dbWithLongPassword []
      Sample.longPasswords 0 Sample.alice.email (Sample.letters 73) Sample.keyed_hashesKey .nil
      Sample.keyUnique_dbWithLongPassword (Sample.emailUnique_dbWithLongPassword _)
      Sample.hashesPasswords_dbWithLongPassword
  have hiff := passwordAuthenticates_iff (s := Sample.keyedService) 0 Sample.keyed_hashesKey
    (Sample.emailUnique_dbWithLongPassword _) Sample.hashesPasswords_dbWithLongPassword
    Sample.alice.email (Sample.letters 73)
  exact hiff.mp hlogin Sample.sharesKey_longer

end Skolva.Auth
