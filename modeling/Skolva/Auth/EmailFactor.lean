import Skolva.Auth.Totp

/-! # Codes by email as a second factor

`email2fa.go`. The state is kept under five keys of `users_meta`.
-/

namespace Skolva.Auth

open Effect

def email2faOTPExpiry : Nat := 10 * Time.minute

def textTrue : Text := .other "true"

/-- The user has activated codes by email. -/
def Db.EmailEnabled (db : Db) (u : Uuid) : Prop :=
  db.usersMeta u .email2faEnabled = some textTrue

/-- The keys of this module. -/
def MetaKey.IsEmail2FA : MetaKey → Prop
  | .email2faEnabled | .email2faOTPHash | .email2faExpires | .email2faAttempts
  | .email2faLocked => True
  | _ => False

/-- The random number of a code, and the salt of its hash. -/
structure OTPDraw where
  number : Fin 1000000
  salt : Nat

def generateNumericOTP (draw : OTPDraw) : Bytes := zeroPadded 6 draw.number

theorem length_zeroPadded (count value : Nat) : (zeroPadded count value).length = count := by
  induction count generalizing value with
  | zero => rfl
  | succ count ih => simp [zeroPadded, ih]

/-- With an ideal `bcrypt` every code can be hashed. -/
theorem generate_numericOTP {lib : External} (hbcrypt : lib.IdealBcrypt) (draw : OTPDraw) :
    ∃ hash, lib.bcryptGenerate draw.salt (generateNumericOTP draw) = some hash := by
  apply Option.isSome_iff_exists.mp
  rw [hbcrypt.generate_isSome, generateNumericOTP, length_zeroPadded]
  decide

namespace Service

variable (s : Service)

def isEmail2FAEnabled (userID : Uuid) : Prog (Except Err Bool) := do
  match ← metaGet userID .email2faEnabled with
  | .error cause => return .error (.call cause)
  | .ok value => return .ok (value = some textTrue)

def issueEmailOTP (draw : OTPDraw) (userID : Uuid) (email subject intro : String) :
    Prog (Except Err Unit) := do
  let otp := generateNumericOTP draw
  match s.lib.bcryptGenerate draw.salt otp with
  | none => return .error .bcrypt
  | some hash =>
      match ← metaSet userID .email2faOTPHash hash with
      | .error cause => return .error (.call cause)
      | .ok _ =>
          let expires := formatRFC3339 ((← timeNow) + email2faOTPExpiry)
          match ← metaSet userID .email2faExpires expires with
          | .error cause => return .error (.call cause)
          | .ok _ =>
              -- A new code starts with a fresh counter and without a lock.
              let _ ← metaDelete userID .email2faAttempts
              let _ ← metaDelete userID .email2faLocked
              let _ ← sendMail {
                recipients := [email]
                subject := subject
                body := .code intro otp (email2faOTPExpiry / Time.minute) }
              return .ok ()

/-- `time.Parse` succeeds and the present is before the instant it gives. -/
def isBefore (text : Option Text) : Prog Bool := do
  match text.bind parseRFC3339 with
  | none => return false
  | some instant =>
      let now ← timeNow
      return now < instant

/-- `time.Parse` fails or the present is after the instant it gives. -/
def hasExpired (text : Text) : Prog Bool := do
  match parseRFC3339 text with
  | none => return true
  | some instant =>
      let now ← timeNow
      return instant < now

/-- `verifyEmailOTP` up to the comparison: the stored hash, unless the factor is
locked or there is no live code. -/
def activeEmailOTP (userID : Uuid) : Prog (Except Err Text) := do
  -- A lock that cannot be read does not hold.
  let lockedStr := valueOr none (← metaGet userID .email2faLocked)
  if ← isBefore lockedStr then
    return .error (.forbidden "account is temporarily locked due to too many failed attempts")
  else
    match ← metaGet userID .email2faExpires with
    | .error cause => return .error (.call cause)
    | .ok none => return .error (.validation "no active code; request a new one")
    | .ok (some expiresStr) =>
        if ← hasExpired expiresStr then
          return .error (.validation "code has expired; request a new one")
        else
          match ← metaGet userID .email2faOTPHash with
          | .error cause => return .error (.call cause)
          | .ok none => return .error (.validation "no active code; request a new one")
          | .ok (some hash) => return .ok hash

/-- The failed attempts a stored text stands for. -/
def storedAttempts : Option Text → Nat
  | none => 0
  | some count => atoi count

/-- `verifyEmailOTP` after the comparison has failed. -/
def rejectEmailOTP (userID : Uuid) : Prog (Except Err Unit) := do
  -- The counter is read and written back in two calls, and their errors are dropped.
  let attempts := storedAttempts (valueOr none (← metaGet userID .email2faAttempts)) + 1
  let _ ← metaSet userID .email2faAttempts (itoa attempts)
  if maxFailedAttempts ≤ attempts then
    let lockedUntil := formatRFC3339 ((← timeNow) + lockoutDuration)
    let _ ← metaSet userID .email2faLocked lockedUntil
    return .error (.unauthorized "invalid code")
  else
    return .error (.unauthorized "invalid code")

/-- `verifyEmailOTP` after the comparison has succeeded. -/
def acceptEmailOTP (userID : Uuid) : Prog (Except Err Unit) := do
  let _ ← metaDelete userID .email2faOTPHash
  let _ ← metaDelete userID .email2faExpires
  let _ ← metaDelete userID .email2faAttempts
  let _ ← metaDelete userID .email2faLocked
  return .ok ()

def verifyEmailOTP (userID : Uuid) (code : Bytes) : Prog (Except Err Unit) := do
  match ← activeEmailOTP userID with
  | .error err => return .error err
  | .ok hash =>
      if s.lib.bcryptCompare hash code then acceptEmailOTP userID else rejectEmailOTP userID

def setupEmail2FA (draw : OTPDraw) (userID : Uuid) : Prog (Except Err Unit) := do
  match ← isEmail2FAEnabled userID with
  | .error err => return .error err
  | .ok true => return .error (.conflict "email 2FA is already active")
  | .ok false =>
      match ← getUser userID with
      | .error err => return .error err
      | .ok u =>
          s.issueEmailOTP draw userID u.email "Email-2FA bestätigen — Skolva"
            "Bestätige die Aktivierung der Zwei-Faktor-Authentifizierung per E-Mail."

def confirmEmail2FA (userID : Uuid) (code : Bytes) : Prog (Except Err Unit) := do
  match ← isEmail2FAEnabled userID with
  | .error err => return .error err
  | .ok true => return .error (.conflict "email 2FA is already active")
  | .ok false =>
      match ← s.verifyEmailOTP userID code with
      | .error err => return .error err
      | .ok _ =>
          match ← metaSet userID .email2faEnabled textTrue with
          | .error cause => return .error (.call cause)
          | .ok _ => return .ok ()

def sendEmail2FALoginOTP (draw : OTPDraw) (userID : Uuid) : Prog (Except Err Unit) := do
  match ← isEmail2FAEnabled userID with
  | .error err => return .error err
  | .ok false => return .ok ()
  | .ok true =>
      match ← getUser userID with
      | .error err => return .error err
      | .ok u =>
          s.issueEmailOTP draw userID u.email "Dein Anmelde-Code — Skolva"
            "Verwende diesen Code, um deine Anmeldung abzuschließen."

def verifyEmail2FALogin (userID : Uuid) (code : Bytes) : Prog (Except Err Unit) := do
  match ← isEmail2FAEnabled userID with
  | .error err => return .error err
  | .ok false => return .error (.unauthorized "email 2FA is not active for this account")
  | .ok true => s.verifyEmailOTP userID code

/-- The loop of `DisableEmail2FA`. -/
def deleteKeys (userID : Uuid) : List MetaKey → Prog (Except Err Unit)
  | [] => return .ok ()
  | key :: keys => do
      match ← metaDelete userID key with
      | .error cause => return .error (.call cause)
      | .ok _ => deleteKeys userID keys

def disableEmail2FA (userID : Uuid) : Prog (Except Err Unit) :=
  deleteKeys userID [.email2faEnabled, .email2faOTPHash, .email2faExpires, .email2faAttempts,
    .email2faLocked]

/-! ## The calls they make -/

section Uses

variable {allowed : Op → Prop} {userID : Uuid}
  (hread : ∀ key, allowed (.metaGet userID key))
  (hset : ∀ key value, key.IsEmail2FA → allowed (.metaSet userID key value))
  (hdelete : ∀ key, key.IsEmail2FA → allowed (.metaDelete userID key))

theorem uses_isBefore (text : Option Text) : (isBefore text).Uses allowed := by
  unfold isBefore
  split
  · exact Program.uses_pure _
  · exact Program.uses_bind Program.uses_readClock fun _ => Program.uses_pure _

theorem uses_hasExpired (text : Text) : (hasExpired text).Uses allowed := by
  unfold hasExpired
  split
  · exact Program.uses_pure _
  · exact Program.uses_bind Program.uses_readClock fun _ => Program.uses_pure _

include hread

theorem uses_isEmail2FAEnabled : (isEmail2FAEnabled userID).Uses allowed := by
  refine Program.uses_bind (Program.uses_perform (hread _)) fun value => ?_
  cases value <;> exact Program.uses_pure _

theorem uses_activeEmailOTP : (activeEmailOTP userID).Uses allowed := by
  refine Program.uses_bind (Program.uses_perform (hread _)) fun lockedStr => ?_
  refine Program.uses_bind (uses_isBefore _) fun locked => ?_
  split
  · exact Program.uses_pure _
  · refine Program.uses_bind (Program.uses_perform (hread _)) fun expiresStr => ?_
    split
    · exact Program.uses_pure _
    · exact Program.uses_pure _
    · refine Program.uses_bind (uses_hasExpired _) fun expired => ?_
      split
      · exact Program.uses_pure _
      · refine Program.uses_bind (Program.uses_perform (hread _)) fun hash => ?_
        split <;> exact Program.uses_pure _

include hset

theorem uses_rejectEmailOTP : (rejectEmailOTP userID).Uses allowed := by
  refine Program.uses_bind (Program.uses_perform (hread _)) fun stored => ?_
  dsimp only
  refine Program.uses_bind (Program.uses_perform (hset _ _ trivial)) fun _ => ?_
  split
  · refine Program.uses_bind Program.uses_readClock fun now => ?_
    exact Program.uses_bind (Program.uses_perform (hset _ _ trivial)) fun _ => Program.uses_pure _
  · exact Program.uses_pure _

include hdelete

theorem uses_verifyEmailOTP (code : Bytes) : (s.verifyEmailOTP userID code).Uses allowed := by
  refine Program.uses_bind (uses_activeEmailOTP hread) fun active => ?_
  split
  · exact Program.uses_pure _
  · split
    · refine Program.uses_bind (Program.uses_perform (hdelete _ trivial)) fun _ => ?_
      refine Program.uses_bind (Program.uses_perform (hdelete _ trivial)) fun _ => ?_
      refine Program.uses_bind (Program.uses_perform (hdelete _ trivial)) fun _ => ?_
      exact Program.uses_bind (Program.uses_perform (hdelete _ trivial)) fun _ =>
        Program.uses_pure _
    · exact uses_rejectEmailOTP hread hset

theorem uses_confirmEmail2FA (code : Bytes) : (s.confirmEmail2FA userID code).Uses allowed := by
  refine Program.uses_bind (uses_isEmail2FAEnabled hread) fun enabled => ?_
  split
  · exact Program.uses_pure _
  · exact Program.uses_pure _
  · refine Program.uses_bind (s.uses_verifyEmailOTP hread hset hdelete code) fun verified => ?_
    split
    · exact Program.uses_pure _
    · refine Program.uses_bind (Program.uses_perform (hset _ _ trivial)) fun resp => ?_
      cases resp <;> exact Program.uses_pure _

theorem uses_verifyEmail2FALogin (code : Bytes) :
    (s.verifyEmail2FALogin userID code).Uses allowed := by
  refine Program.uses_bind (uses_isEmail2FAEnabled hread) fun enabled => ?_
  split
  · exact Program.uses_pure _
  · exact Program.uses_pure _
  · exact s.uses_verifyEmailOTP hread hset hdelete code

variable (hmail : ∀ message, allowed (.sendMail message))
  (hget : allowed (.getUserByID userID))

include hmail

omit hread in
theorem uses_issueEmailOTP (draw : OTPDraw) (email subject intro : String) :
    (s.issueEmailOTP draw userID email subject intro).Uses allowed := by
  unfold issueEmailOTP
  dsimp only
  split
  · exact Program.uses_pure _
  · refine Program.uses_bind (Program.uses_perform (hset _ _ trivial)) fun resp => ?_
    split
    · exact Program.uses_pure _
    · refine Program.uses_bind Program.uses_readClock fun now => ?_
      refine Program.uses_bind (Program.uses_perform (hset _ _ trivial)) fun resp => ?_
      split
      · exact Program.uses_pure _
      · refine Program.uses_bind (Program.uses_perform (hdelete _ trivial)) fun _ => ?_
        refine Program.uses_bind (Program.uses_perform (hdelete _ trivial)) fun _ => ?_
        exact Program.uses_bind (Program.uses_perform (hmail _)) fun _ => Program.uses_pure _

include hget

theorem uses_setupEmail2FA (draw : OTPDraw) : (s.setupEmail2FA draw userID).Uses allowed := by
  refine Program.uses_bind (uses_isEmail2FAEnabled hread) fun enabled => ?_
  split
  · exact Program.uses_pure _
  · exact Program.uses_pure _
  · refine Program.uses_bind (uses_getUser hget) fun found => ?_
    split
    · exact Program.uses_pure _
    · exact s.uses_issueEmailOTP hset hdelete hmail ..

theorem uses_sendEmail2FALoginOTP (draw : OTPDraw) :
    (s.sendEmail2FALoginOTP draw userID).Uses allowed := by
  refine Program.uses_bind (uses_isEmail2FAEnabled hread) fun enabled => ?_
  split
  · exact Program.uses_pure _
  · exact Program.uses_pure _
  · refine Program.uses_bind (uses_getUser hget) fun found => ?_
    split
    · exact Program.uses_pure _
    · exact s.uses_issueEmailOTP hset hdelete hmail ..

end Uses

theorem uses_deleteKeys {allowed : Op → Prop} {userID : Uuid} {keys : List MetaKey}
    (hdelete : ∀ key ∈ keys, allowed (.metaDelete userID key)) :
    (deleteKeys userID keys).Uses allowed := by
  induction keys with
  | nil => exact Program.uses_pure _
  | cons key keys ih =>
      refine Program.uses_bind (Program.uses_perform (hdelete key List.mem_cons_self)) fun resp => ?_
      cases resp with
      | error cause => exact Program.uses_pure _
      | ok _ => exact ih fun other hother => hdelete other (List.mem_cons_of_mem key hother)

theorem uses_disableEmail2FA {allowed : Op → Prop} {userID : Uuid}
    (hdelete : ∀ key, key.IsEmail2FA → allowed (.metaDelete userID key)) :
    (disableEmail2FA userID).Uses allowed := by
  apply uses_deleteKeys
  intro key hkey
  apply hdelete
  simp only [List.mem_cons, List.not_mem_nil, or_false] at hkey
  rcases hkey with rfl | rfl | rfl | rfl | rfl <;> trivial

/-! ## What they do to the keys of a user -/

/-- The lock of the factor is set and lies in the future. -/
def EmailLockedAt (db : Db) (now : Nat) (userID : Uuid) : Prop :=
  ∃ instant ∈ (db.usersMeta userID .email2faLocked).bind parseRFC3339, now < instant

/-- A code is live: the factor is not locked, and a hash is stored that has not expired. -/
def LiveEmailOTP (db : Db) (now : Nat) (userID : Uuid) (hash : Text) : Prop :=
  ¬EmailLockedAt db now userID ∧
    (∃ instant ∈ (db.usersMeta userID .email2faExpires).bind parseRFC3339, now ≤ instant) ∧
    db.usersMeta userID .email2faOTPHash = some hash

def emailAttempts (db : Db) (userID : Uuid) : Nat :=
  storedAttempts (db.usersMeta userID .email2faAttempts)

/-- One more wrong code has been entered. -/
def countWrongOTP (db : Db) (now : Nat) (userID : Uuid) : Db :=
  let attempts := emailAttempts db userID + 1
  let counted := db.setMeta userID .email2faAttempts (some (itoa attempts))
  if maxFailedAttempts ≤ attempts then
    counted.setMeta userID .email2faLocked (some (formatRFC3339 (now + lockoutDuration)))
  else counted

theorem countWrongOTP_key (db : Db) (now : Nat) (userID : Uuid) (key : MetaKey) :
    (countWrongOTP db now userID).usersMeta userID key =
      if key = .email2faAttempts then some (itoa (emailAttempts db userID + 1))
      else if key = .email2faLocked ∧ maxFailedAttempts ≤ emailAttempts db userID + 1 then
        some (formatRFC3339 (now + lockoutDuration))
      else db.usersMeta userID key := by
  unfold countWrongOTP
  dsimp only
  by_cases hmax : maxFailedAttempts ≤ emailAttempts db userID + 1
  · rw [if_pos hmax, Db.setMeta_apply, Db.setMeta_apply]
    by_cases hlocked : key = .email2faLocked
    · simp [hlocked, hmax]
    · simp [hlocked]
  · rw [if_neg hmax, Db.setMeta_apply]
    simp [hmax]

/-- The code of the user has been used up. -/
def withoutEmailOTP (db : Db) (userID : Uuid) : Db :=
  (((db.setMeta userID .email2faOTPHash none).setMeta userID .email2faExpires none).setMeta
    userID .email2faAttempts none).setMeta userID .email2faLocked none

section Run

variable (now : Nat) (db : Db) (userID : Uuid) (code : Bytes)

theorem run_isEmail2FAEnabled :
    ∃ enabled, (isEmail2FAEnabled userID).run (serve s.lib) now db = (.ok enabled, db) ∧
      (enabled = true ↔ db.EmailEnabled userID) :=
  ⟨_, rfl, decide_eq_true_iff⟩

theorem run_isBefore {St : Type} (serve : Nat → (op : Op) → St → op.Resp × St) (store : St)
    (text : Option Text) :
    ∃ before, (isBefore text).run serve now store = (before, store) ∧
      (before = true ↔ ∃ instant ∈ text.bind parseRFC3339, now < instant) := by
  unfold isBefore
  cases text.bind parseRFC3339 with
  | none => exact ⟨_, rfl, by simp⟩
  | some instant => exact ⟨_, rfl, by simp⟩

theorem run_hasExpired {St : Type} (serve : Nat → (op : Op) → St → op.Resp × St) (store : St)
    (text : Text) :
    ∃ expired, (hasExpired text).run serve now store = (expired, store) ∧
      (expired = false ↔ ∃ instant ∈ parseRFC3339 text, now ≤ instant) := by
  unfold hasExpired
  cases parseRFC3339 text with
  | none => exact ⟨_, rfl, by simp⟩
  | some instant => exact ⟨_, rfl, by simp⟩

theorem run_activeEmailOTP :
    ∃ active, (activeEmailOTP userID).run (serve s.lib) now db = (active, db) ∧
      ∀ hash, active = .ok hash ↔ LiveEmailOTP db now userID hash := by
  obtain ⟨locked, hrunLocked, hlocked⟩ :=
    run_isBefore now (serve s.lib) db (db.usersMeta userID .email2faLocked)
  unfold activeEmailOTP LiveEmailOTP EmailLockedAt
  rw [Program.run_bind, Program.run_perform]
  simp only [serve, valueOr_ok, Program.run_bind, hrunLocked, ← hlocked]
  cases locked with
  | true => exact ⟨_, rfl, by simp⟩
  | false =>
      simp only [Bool.false_eq_true, if_false, Program.run_bind, Program.run_perform, serve,
        not_false_eq_true, true_and]
      cases hexpires : db.usersMeta userID .email2faExpires with
      | none => exact ⟨_, rfl, by simp⟩
      | some expiresStr =>
          obtain ⟨expired, hrunExpired, hexpired⟩ := run_hasExpired now (serve s.lib) db expiresStr
          simp only [Program.run_bind, hrunExpired, Option.bind_some, ← hexpired]
          cases expired with
          | true => exact ⟨_, rfl, by simp⟩
          | false =>
              simp only [Bool.false_eq_true, if_false, Program.run_bind, Program.run_perform,
                serve, true_and]
              cases hhash : db.usersMeta userID .email2faOTPHash with
              | none => exact ⟨_, rfl, by simp⟩
              | some hash => exact ⟨_, rfl, by simp⟩

theorem run_rejectEmailOTP :
    (rejectEmailOTP userID).run (serve s.lib) now db =
      (.error (.unauthorized "invalid code"), countWrongOTP db now userID) := by
  unfold rejectEmailOTP countWrongOTP emailAttempts
  rw [Program.run_bind, run_metaGet]
  dsimp only [valueOr_ok]
  by_cases hlock : maxFailedAttempts ≤ storedAttempts (db.usersMeta userID .email2faAttempts) + 1
  · rw [if_pos hlock, if_pos hlock]
    rfl
  · rw [if_neg hlock, if_neg hlock]
    rfl

theorem run_acceptEmailOTP :
    (acceptEmailOTP userID).run (serve s.lib) now db = (.ok (), withoutEmailOTP db userID) := rfl

/-- A live code is accepted or counted; without one nothing changes. -/
theorem run_verifyEmailOTP :
    (∃ hash, LiveEmailOTP db now userID hash ∧
      (s.verifyEmailOTP userID code).run (serve s.lib) now db =
        if s.lib.bcryptCompare hash code then (.ok (), withoutEmailOTP db userID)
        else (.error (.unauthorized "invalid code"), countWrongOTP db now userID)) ∨
    ((∀ hash, ¬LiveEmailOTP db now userID hash) ∧
      ∃ err, (s.verifyEmailOTP userID code).run (serve s.lib) now db = (.error err, db)) := by
  obtain ⟨active, hrun, hactive⟩ := run_activeEmailOTP s now db userID
  unfold verifyEmailOTP
  rw [Program.run_bind, hrun]
  cases active with
  | error err =>
      refine .inr ⟨fun hash hlive => ?_, err, rfl⟩
      exact nomatch (hactive hash).mpr hlive
  | ok hash =>
      refine .inl ⟨hash, (hactive hash).mp rfl, ?_⟩
      dsimp only
      by_cases hcompare : s.lib.bcryptCompare hash code = true
      · rw [if_pos hcompare, if_pos hcompare]
        exact s.run_acceptEmailOTP now db userID
      · rw [if_neg hcompare, if_neg hcompare]
        exact s.run_rejectEmailOTP now db userID

/-- Codes by email are active for the user, and the code is the live one. -/
def AcceptsEmailOTP (db : Db) (now : Nat) (userID : Uuid) (code : Bytes) : Prop :=
  db.EmailEnabled userID ∧
    ∃ hash, LiveEmailOTP db now userID hash ∧ s.lib.bcryptCompare hash code = true

theorem run_verifyEmailOTP_ok :
    ((s.verifyEmailOTP userID code).run (serve s.lib) now db).1 = .ok () ↔
      ∃ hash, LiveEmailOTP db now userID hash ∧ s.lib.bcryptCompare hash code = true := by
  rcases s.run_verifyEmailOTP now db userID code with ⟨hash, hlive, hrun⟩ | ⟨hnone, err, hrun⟩
  · have hunique : ∀ other, LiveEmailOTP db now userID other → other = hash :=
      fun other hother => Option.some.inj (hother.2.2.symm.trans hlive.2.2)
    rw [hrun]
    by_cases hcompare : s.lib.bcryptCompare hash code = true
    · rw [if_pos hcompare]
      exact ⟨fun _ => ⟨hash, hlive, hcompare⟩, fun _ => rfl⟩
    · rw [if_neg hcompare]
      refine ⟨nofun, ?_⟩
      rintro ⟨other, hother, haccepts⟩
      exact absurd (hunique other hother ▸ haccepts) hcompare
  · rw [hrun]
    exact ⟨nofun, fun ⟨hash, hlive, _⟩ => absurd hlive (hnone hash)⟩

theorem run_verifyEmail2FALogin :
    (s.verifyEmail2FALogin userID code).run (serve s.lib) now db =
      if db.usersMeta userID .email2faEnabled = some textTrue then
        (s.verifyEmailOTP userID code).run (serve s.lib) now db
      else (.error (.unauthorized "email 2FA is not active for this account"), db) := by
  obtain ⟨enabled, hrun, henabled⟩ := s.run_isEmail2FAEnabled now db userID
  unfold verifyEmail2FALogin
  rw [Program.run_bind, hrun]
  unfold Db.EmailEnabled at henabled
  rw [if_congr henabled.symm rfl rfl]
  cases enabled <;> rfl

theorem run_verifyEmail2FALogin_ok :
    ((s.verifyEmail2FALogin userID code).run (serve s.lib) now db).1 = .ok () ↔
      s.AcceptsEmailOTP db now userID code := by
  unfold AcceptsEmailOTP Db.EmailEnabled
  rw [run_verifyEmail2FALogin, ← run_verifyEmailOTP_ok]
  by_cases henabled : db.usersMeta userID .email2faEnabled = some textTrue
  · rw [if_pos henabled]
    exact (and_iff_right henabled).symm
  · rw [if_neg henabled]
    exact ⟨nofun, fun haccepts => absurd haccepts.1 henabled⟩

end Run

end Service

end Skolva.Auth
