import Skolva.Auth.EmailFactor

/-! # Password reset

`password_reset.go`. A token is stored as its hash, an expiry and a flag, under
three keys of `users_meta`.
-/

namespace Skolva.Auth

open Effect

def resetTokenExpiry : Nat := 1 * Time.hour

/-- The keys of this module. -/
def MetaKey.IsReset : MetaKey → Prop
  | .resetTokenHash | .resetExpiresAt | .resetUsed => True
  | _ => False

/-- The token `uuid.NewString` draws, and the salt of its hash. -/
structure ResetDraw where
  token : Uuid
  salt : Nat

/-- The token as its bytes. -/
def ResetDraw.plain (draw : ResetDraw) (lib : External) : Bytes :=
  bytesOf (lib.uuidString draw.token)

/-- With an ideal `bcrypt` every token can be hashed. -/
theorem generate_resetToken {lib : External} (hbcrypt : lib.IdealBcrypt) (draw : ResetDraw) :
    ∃ hash, lib.bcryptGenerate draw.salt (draw.plain lib) = some hash := by
  apply Option.isSome_iff_exists.mp
  rw [hbcrypt.generate_isSome, ResetDraw.plain, lib.uuidString_length]
  decide

namespace Service

variable (s : Service)

/-- `ForgotPassword` for the user it has found. -/
def forgotPasswordAfter (draw : ResetDraw) (u : UserByEmailRow) : Prog (Except Err Unit) := do
  match s.lib.bcryptGenerate draw.salt (draw.plain s.lib) with
  | none => return .error .bcrypt
  | some hash =>
      let expires := formatRFC3339 ((← timeNow) + resetTokenExpiry)
      match ← metaSet u.id .resetTokenHash hash with
      | .error cause => return .error (.call cause)
      | .ok _ =>
          match ← metaSet u.id .resetExpiresAt expires with
          | .error cause => return .error (.call cause)
          | .ok _ =>
              -- The flag of the previous token goes last, after the new token is stored.
              let _ ← metaDelete u.id .resetUsed
              let _ ← sendMail {
                recipients := [u.email]
                subject := "Passwort zurücksetzen — Skolva"
                body := .resetLink u.id (draw.plain s.lib) (resetTokenExpiry / Time.hour) }
              return .ok ()

def forgotPassword (draw : ResetDraw) (email : String) : Prog (Except Err Unit) := do
  match ← getUserByEmail email with
  | .error .noRows => return .ok ()
  | .error cause => return .error (.call cause)
  | .ok u => s.forgotPasswordAfter draw u

/-- The writes of `ResetPassword`, after the token has been checked. -/
def completeReset (salt : Nat) (userID : Uuid) (newPassword : Bytes) :
    Prog (Except Err Unit) := do
  match hashPassword s.lib salt newPassword with
  | .error err => return .error err
  | .ok hash =>
      match ← updatePassword userID hash with
      | .error cause => return .error (.call cause)
      | .ok _ =>
          -- The token is marked only now, in a call of its own.
          match ← metaSet userID .resetUsed textTrue with
          | .error cause => return .error (.call cause)
          | .ok _ => return .ok ()

/-- `ResetPassword` for an existing user. -/
def resetPasswordAfter (salt : Nat) (userID : Uuid) (token newPassword : Bytes) :
    Prog (Except Err Unit) := do
  -- A flag that cannot be read counts as not set.
  if valueOr none (← metaGet userID .resetUsed) = some textTrue then
    return .error (.validation "reset link has already been used")
  else
    match valueOr none (← metaGet userID .resetExpiresAt) with
    | none => return .error (.validation "no active reset request")
    | some expiresStr =>
        if ← hasExpired expiresStr then
          return .error (.validation "reset link has expired")
        else
          match valueOr none (← metaGet userID .resetTokenHash) with
          | none => return .error (.validation "no active reset request")
          | some tokenHash =>
              if s.lib.bcryptCompare tokenHash token then
                s.completeReset salt userID newPassword
              else
                return .error (.validation "invalid reset link")

def resetPassword (salt : Nat) (userID : Uuid) (token newPassword : Bytes) :
    Prog (Except Err Unit) := do
  match ← getUserByID userID with
  | .error cause => return .error (.notFoundOr "user" cause)
  | .ok _ => s.resetPasswordAfter salt userID token newPassword

/-! ## The calls they make -/

section Uses

variable {allowed : Op → Prop}

theorem uses_forgotPassword (draw : ResetDraw) {email : String}
    (hfind : allowed (.getUserByEmail email))
    (hset : ∀ u key value, key.IsReset → allowed (.metaSet u key value))
    (hdelete : ∀ u key, key.IsReset → allowed (.metaDelete u key))
    (hmail : ∀ message, allowed (.sendMail message)) :
    (s.forgotPassword draw email).Uses allowed := by
  refine Program.uses_bind (Program.uses_perform hfind) fun found => ?_
  split
  · exact Program.uses_pure _
  · exact Program.uses_pure _
  · unfold forgotPasswordAfter
    split
    · exact Program.uses_pure _
    · refine Program.uses_bind Program.uses_readClock fun now => ?_
      refine Program.uses_bind (Program.uses_perform (hset _ _ _ trivial)) fun resp => ?_
      split
      · exact Program.uses_pure _
      · refine Program.uses_bind (Program.uses_perform (hset _ _ _ trivial)) fun resp => ?_
        split
        · exact Program.uses_pure _
        · refine Program.uses_bind (Program.uses_perform (hdelete _ _ trivial)) fun _ => ?_
          exact Program.uses_bind (Program.uses_perform (hmail _)) fun _ => Program.uses_pure _

theorem uses_resetPassword (salt : Nat) {userID : Uuid} (token newPassword : Bytes)
    (hget : allowed (.getUserByID userID)) (hread : ∀ key, allowed (.metaGet userID key))
    (hupdate : ∀ hash, hashPassword s.lib salt newPassword = .ok hash →
      allowed (.updatePassword userID hash))
    (hset : ∀ value, allowed (.metaSet userID .resetUsed value)) :
    (s.resetPassword salt userID token newPassword).Uses allowed := by
  refine Program.uses_bind (Program.uses_perform hget) fun found => ?_
  split
  · exact Program.uses_pure _
  · refine Program.uses_bind (Program.uses_perform (hread _)) fun used => ?_
    split
    · exact Program.uses_pure _
    · refine Program.uses_bind (Program.uses_perform (hread _)) fun expiresStr => ?_
      split
      · exact Program.uses_pure _
      · refine Program.uses_bind (uses_hasExpired _) fun expired => ?_
        split
        · exact Program.uses_pure _
        · refine Program.uses_bind (Program.uses_perform (hread _)) fun tokenHash => ?_
          split
          · exact Program.uses_pure _
          · split
            · unfold completeReset
              split
              · exact Program.uses_pure _
              next hash hhash =>
                refine Program.uses_bind (Program.uses_perform (hupdate hash hhash)) fun resp => ?_
                split
                · exact Program.uses_pure _
                · refine Program.uses_bind (Program.uses_perform (hset _)) fun resp => ?_
                  cases resp <;> exact Program.uses_pure _
            · exact Program.uses_pure _

end Uses

/-! ## What they do -/

/-- The token is the live one of the user: it has not been used, has not expired and
fits the stored hash. -/
def LiveReset (db : Db) (now : Nat) (userID : Uuid) (token : Bytes) : Prop :=
  db.usersMeta userID .resetUsed ≠ some textTrue ∧
    (∃ instant ∈ (db.usersMeta userID .resetExpiresAt).bind parseRFC3339, now ≤ instant) ∧
    ∃ hash ∈ db.usersMeta userID .resetTokenHash, s.lib.bcryptCompare hash token = true

/-- The state after `ForgotPassword` has minted a token for the user. -/
def mintReset (draw : ResetDraw) (db : Db) (now : Nat) (user : User) (hash : Text) : Db :=
  let stored := ((db.setMeta user.id .resetTokenHash (some hash)).setMeta user.id .resetExpiresAt
    (some (formatRFC3339 (now + resetTokenExpiry)))).setMeta user.id .resetUsed none
  { stored with mails := {
      recipients := [user.email]
      subject := "Passwort zurücksetzen — Skolva"
      body := .resetLink user.id (draw.plain s.lib) (resetTokenExpiry / Time.hour) } :: stored.mails }

/-- The state after `ResetPassword` has replaced the password. -/
def useReset (db : Db) (now : Nat) (userID : Uuid) (hash : Text) : Db :=
  (db.updateLiveUser now userID (fun user => { user with passwordHash := hash })).setMeta userID
    .resetUsed (some textTrue)

section Run

variable (now : Nat) (db : Db)

theorem run_forgotPassword (draw : ResetDraw) (email : String) :
    (s.forgotPassword draw email).run (serve s.lib) now db =
      match db.userWithEmail s.lib.lower email with
      | none => (.ok (), db)
      | some user =>
          match s.lib.bcryptGenerate draw.salt (draw.plain s.lib) with
          | none => (.error .bcrypt, db)
          | some hash => (.ok (), s.mintReset draw db now user hash) := by
  unfold forgotPassword
  rw [Program.run_bind, Program.run_perform]
  cases huser : db.userWithEmail s.lib.lower email with
  | none => simp [serve, huser, one]
  | some user =>
      simp only [serve, huser, one, Option.map_some]
      unfold forgotPasswordAfter
      cases s.lib.bcryptGenerate draw.salt (draw.plain s.lib) with
      | none => rfl
      | some hash => rfl

theorem run_completeReset (salt : Nat) (userID : Uuid) (newPassword : Bytes) :
    (s.completeReset salt userID newPassword).run (serve s.lib) now db =
      match hashPassword s.lib salt newPassword with
      | .error err => (.error err, db)
      | .ok hash => (.ok (), useReset db now userID hash) := by
  unfold completeReset
  cases hashPassword s.lib salt newPassword with
  | error err => rfl
  | ok hash => rfl

/-- What the keys of the user decide, on any store that shows them. -/
theorem run_resetPasswordAfter {St : Type} {answer : Nat → (op : Op) → St → op.Resp × St} {store : St}
    (salt : Nat) {userID : Uuid} (token newPassword : Bytes)
    (hmeta : ∀ key, answer now (.metaGet userID key) store =
      (.ok (db.usersMeta userID key), store)) :
    (s.LiveReset db now userID token ∧
      (s.resetPasswordAfter salt userID token newPassword).run answer now store =
        (s.completeReset salt userID newPassword).run answer now store) ∨
    (¬s.LiveReset db now userID token ∧
      ∃ err, (s.resetPasswordAfter salt userID token newPassword).run answer now store =
        (.error err, store)) := by
  unfold resetPasswordAfter LiveReset
  rw [Program.run_bind, Program.run_perform, hmeta]
  dsimp only
  rw [valueOr_ok]
  by_cases hused : db.usersMeta userID .resetUsed = some textTrue
  · rw [if_pos hused]
    exact .inr ⟨fun hlive => hlive.1 hused, _, rfl⟩
  · rw [if_neg hused, Program.run_bind, Program.run_perform, hmeta]
    dsimp only
    rw [valueOr_ok]
    cases hexpires : db.usersMeta userID .resetExpiresAt with
    | none => exact .inr ⟨by simp, _, rfl⟩
    | some expiresStr =>
        obtain ⟨expired, hrunExpired, hexpired⟩ := run_hasExpired now answer store expiresStr
        dsimp only
        rw [Program.run_bind, hrunExpired, Option.bind_some, ← hexpired]
        cases expired with
        | true => exact .inr ⟨by simp, _, rfl⟩
        | false =>
            dsimp only
            rw [if_neg Bool.false_ne_true, Program.run_bind, Program.run_perform, hmeta]
            dsimp only
            rw [valueOr_ok]
            cases hhash : db.usersMeta userID .resetTokenHash with
            | none => exact .inr ⟨by simp, _, rfl⟩
            | some tokenHash =>
                dsimp only
                by_cases hcompare : s.lib.bcryptCompare tokenHash token = true
                · rw [if_pos hcompare]
                  exact .inl ⟨⟨hused, rfl, tokenHash, rfl, hcompare⟩, rfl⟩
                · rw [if_neg hcompare]
                  exact .inr ⟨by simp [hcompare], _, rfl⟩

/-- The same of the whole method, where the store shows the row of the user, too. -/
theorem run_resetPassword_answered {St : Type} (answer : Nat → (op : Op) → St → op.Resp × St)
    (store : St) (salt : Nat) {userID : Uuid} (token newPassword : Bytes)
    (hget : answer now (.getUserByID userID) store =
      (one ((db.liveUser userID).map User.row), store))
    (hmeta : ∀ key, answer now (.metaGet userID key) store =
      (.ok (db.usersMeta userID key), store)) :
    ((db.liveUser userID).isSome = true ∧ s.LiveReset db now userID token ∧
      (s.resetPassword salt userID token newPassword).run answer now store =
        (s.completeReset salt userID newPassword).run answer now store) ∨
    (¬((db.liveUser userID).isSome = true ∧ s.LiveReset db now userID token) ∧
      ∃ err, (s.resetPassword salt userID token newPassword).run answer now store =
        (.error err, store)) := by
  unfold resetPassword
  rw [Program.run_bind, Program.run_perform, hget]
  cases db.liveUser userID with
  | none =>
      right
      simp only [Option.map_none, one, Option.isSome_none, Bool.false_eq_true, false_and,
        not_false_eq_true, true_and]
      exact ⟨_, rfl⟩
  | some user =>
      simp only [Option.map_some, one, Option.isSome_some, true_and]
      exact s.run_resetPasswordAfter now db salt token newPassword hmeta

/-- A live token of an existing user leads to the writes; otherwise nothing changes. -/
theorem run_resetPassword (salt : Nat) (userID : Uuid) (token newPassword : Bytes) :
    ((db.liveUser userID).isSome = true ∧ s.LiveReset db now userID token ∧
      (s.resetPassword salt userID token newPassword).run (serve s.lib) now db =
        (s.completeReset salt userID newPassword).run (serve s.lib) now db) ∨
    (¬((db.liveUser userID).isSome = true ∧ s.LiveReset db now userID token) ∧
      ∃ err, (s.resetPassword salt userID token newPassword).run (serve s.lib) now db =
        (.error err, db)) :=
  s.run_resetPassword_answered now db (serve s.lib) db salt token newPassword rfl fun _ => rfl

end Run

end Service

end Skolva.Auth
