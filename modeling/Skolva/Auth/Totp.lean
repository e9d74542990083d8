import Skolva.Auth.Users

/-! # TOTP as a second factor

`totp.go`. A method that reads the row of a user and then acts on it is split
after the read, so that other requests can come between the two.
-/

namespace Skolva.Auth

open Effect

def maxFailedAttempts : Nat := 5

def lockoutDuration : Nat := 15 * Time.minute

def recoveryCodeCount : Nat := 10

def recoveryCodeLen : Nat := 16

/-- The alphabet of RFC 4648. -/
def base32Alphabet : Bytes := bytesOf "ABCDEFGHIJKLMNOPQRSTUVWXYZ234567"

/-- `base32.StdEncoding.WithPadding(base32.NoPadding).EncodeToString(buf)`: 26 groups
of five bits, the last of them filled up with zeros. -/
def base32Encode (buf : BitVec (8 * recoveryCodeLen)) : Bytes :=
  (List.range 26).map (fun index =>
    base32Alphabet.getD (buf.toNat * 4 / 32 ^ (25 - index) % 32) 0)

/-- The random bytes of a recovery code, and the salt of its hash. -/
structure RecoveryDraw where
  buf : BitVec (8 * recoveryCodeLen)
  salt : Nat

def generateRecoveryCode (lib : External) (draw : RecoveryDraw) : Except Err (Bytes × Text) :=
  let plain := (base32Encode draw.buf).take recoveryCodeLen
  match lib.bcryptGenerate draw.salt plain with
  | none => .error .bcrypt
  | some hash => .ok (plain, hash)

/-- What `Setup2FA` draws: the seed of the key, a nonce, and the recovery codes. -/
structure SetupDraw where
  seed : Nat
  nonce : Nat
  codes : Fin recoveryCodeCount → RecoveryDraw

/-- A wrong code more, unless the counter wraps. -/
theorem toInt_succ {failed : Int32} (hfits : failed ≠ Int32.maxValue) :
    (failed + 1).toInt = failed.toInt + 1 := by
  have hlow := Int32.le_toInt failed
  have hbelow := Int32.toInt_lt failed
  have hne : failed.toInt ≠ 2 ^ 31 - 1 := fun heq =>
    hfits (Int32.toInt_inj.mp (heq.trans Int32.toInt_maxValue.symm))
  rw [Int32.toInt_add, Int32.toInt_one]
  exact Int.bmod_eq_of_le (by omega) (by omega)

namespace Service

variable (s : Service)

/-- `Setup2FA` with the row it has read. -/
def setup2FAAfter (draw : SetupDraw) (userID : Uuid)
    (read : Except CallError UserTotpSecret) : Prog (Except Err (String × List Bytes)) := do
  -- The error of the look-up is dropped, so a row that cannot be read counts as disabled.
  let existing := valueOr .zero read
  if existing.isEnabled then
    return .error (.conflict "2FA is already set up and active")
  else
    match ← getUser userID with
    | .error err => return .error err
    | .ok u =>
        match s.lib.totpGenerate draw.seed "Skolva" u.email with
        | none => return .error .totp
        | some (secret, url) =>
            match s.lib.encrypt draw.nonce secret with
            | none => return .error .cipher
            | some encrypted =>
                match (List.ofFn draw.codes).mapM (generateRecoveryCode s.lib) with
                | .error err => return .error err
                | .ok codes =>
                    match ← upsertTOTPSecret userID {
                        secretEncrypted := encrypted
                        recoveryCodesHash := codes.map Prod.snd } with
                    | .error cause => return .error (.call cause)
                    | .ok _ => return .ok (url, codes.map Prod.fst)

def setup2FA (draw : SetupDraw) (userID : Uuid) : Prog (Except Err (String × List Bytes)) := do
  s.setup2FAAfter draw userID (← getTOTPSecret userID)

/-- `Confirm2FA` with the row it has read. -/
def confirm2FAAfter (userID : Uuid) (code : Bytes)
    (read : Except CallError UserTotpSecret) : Prog (Except Err Unit) := do
  match read with
  | .error cause => return .error (.notFoundOr "2FA not set up" cause)
  | .ok row =>
      if row.isEnabled then
        return .error (.conflict "2FA is already active")
      else
        match s.lib.decrypt row.secretEncrypted with
        | none => return .error .cipher
        | some secret =>
            let validated ← timeNow
            if s.lib.totpValidate code secret validated then
              let now ← timeNow
              match ← upsertTOTPSecret userID {
                  secretEncrypted := row.secretEncrypted
                  isEnabled := true
                  verifiedAt := some now
                  recoveryCodesHash := row.recoveryCodesHash } with
              | .error cause => return .error (.call cause)
              | .ok _ => return .ok ()
            else
              return .error (.validation "invalid TOTP code")

def confirm2FA (userID : Uuid) (code : Bytes) : Prog (Except Err Unit) := do
  s.confirm2FAAfter userID code (← getTOTPSecret userID)

/-- `row.LockedUntil.Valid && time.Now().Before(row.LockedUntil.Time)`; the clock is
read only for the second operand. -/
def isLocked (lockedUntil : Option Nat) : Prog Bool := do
  match lockedUntil with
  | none => return false
  | some instant =>
      let now ← timeNow
      return now < instant

/-- The write of `Verify2FA` after a valid code. -/
def acceptTOTP (userID : Uuid) (row : UserTotpSecret) : Prog (Except Err Unit) := do
  let now ← timeNow
  -- The lock is left out, and with it lifted.
  match ← upsertTOTPSecret userID {
      secretEncrypted := row.secretEncrypted
      isEnabled := true
      verifiedAt := row.verifiedAt
      recoveryCodesHash := row.recoveryCodesHash
      lastUsedAt := some now
      failedAttempts := 0 } with
  | .error cause => return .error (.call cause)
  | .ok _ => return .ok ()

/-- The lock that goes with a number of failed attempts. -/
def nextLock (failed : Int32) : Prog (Option Nat) := do
  if maxFailedAttempts ≤ failed.toInt then
    let now ← timeNow
    return some (now + lockoutDuration)
  else
    return none

/-- The write of `Verify2FA` after an invalid code. -/
def rejectTOTP (userID : Uuid) (row : UserTotpSecret) : Prog (Except Err Unit) := do
  -- The `int32` wraps: after 2147483647 comes a negative number, which locks nothing.
  let failed := row.failedAttempts + 1
  let lock ← nextLock failed
  match ← upsertTOTPSecret userID {
      secretEncrypted := row.secretEncrypted
      isEnabled := true
      verifiedAt := row.verifiedAt
      recoveryCodesHash := row.recoveryCodesHash
      failedAttempts := failed
      lockedUntil := lock } with
  | .error cause => return .error (.call cause)
  | .ok _ => return .error (.unauthorized "invalid TOTP code")

/-- `Verify2FA` with the row it has read. -/
def verify2FAAfter (userID : Uuid) (code : Bytes)
    (read : Except CallError UserTotpSecret) : Prog (Except Err Unit) := do
  match read with
  -- A failed look-up is answered like a row that is not enabled.
  | .error _ => return .error (.unauthorized "2FA is not active for this account")
  | .ok row =>
      if row.isEnabled then
        if ← isLocked row.lockedUntil then
          return .error
            (.forbidden "account is temporarily locked due to too many failed attempts")
        else
          match s.lib.decrypt row.secretEncrypted with
          | none => return .error .cipher
          | some secret =>
              let validated ← timeNow
              if s.lib.totpValidate code secret validated then
                acceptTOTP userID row
              else
                rejectTOTP userID row
      else
        return .error (.unauthorized "2FA is not active for this account")

def verify2FA (userID : Uuid) (code : Bytes) : Prog (Except Err Unit) := do
  s.verify2FAAfter userID code (← getTOTPSecret userID)

/-- `ConsumeRecoveryCode` with the row it has read. -/
def consumeRecoveryCodeAfter (userID : Uuid) (code : Bytes)
    (read : Except CallError UserTotpSecret) : Prog (Except Err Unit) := do
  match read with
  | .error _ => return .error (.unauthorized "recovery is not available")
  | .ok row =>
      if row.isEnabled then
        match row.recoveryCodesHash.findIdx? (fun hash => s.lib.bcryptCompare hash code) with
        | none => return .error (.unauthorized "invalid recovery code")
        | some found =>
            -- Spending a code lifts the lock as well.
            match ← upsertTOTPSecret userID {
                secretEncrypted := row.secretEncrypted
                isEnabled := true
                verifiedAt := row.verifiedAt
                failedAttempts := 0
                recoveryCodesHash := row.recoveryCodesHash.eraseIdx found } with
            | .error cause => return .error (.call cause)
            | .ok _ => return .ok ()
      else
        return .error (.unauthorized "recovery is not available")

def consumeRecoveryCode (userID : Uuid) (code : Bytes) : Prog (Except Err Unit) := do
  s.consumeRecoveryCodeAfter userID code (← getTOTPSecret userID)

def disable2FA (userID : Uuid) (code : Bytes) : Prog (Except Err Unit) := do
  match ← s.verify2FA userID code with
  | .error _ => return .error (.unauthorized "invalid code; 2FA remains active")
  | .ok _ =>
      match ← deleteTOTPSecret userID with
      | .error cause => return .error (.call cause)
      | .ok _ => return .ok ()

def issueAccessForUser (jti userID : Uuid) : Prog (Except Err s.lib.Token) := do
  match ← getUserByID userID with
  | .error cause => return .error (.call cause)
  | .ok u =>
      match ← listUserRoles userID with
      | .error cause => return .error (.call cause)
      | .ok roleRows =>
          match ← getPermissionsForUser userID with
          | .error cause => return .error (.call cause)
          | .ok perms =>
              s.tm.issueAccess s.lib jti (s.lib.uuidString userID) u.email
                (roleRows.map Role.slug) perms

/-! ## What a set-up writes -/

/-- The provisioning URI, the codes and the row that `Setup2FA` makes for an address. -/
def newFactor (draw : SetupDraw) (email : String) :
    Except Err (String × List Bytes × UpsertTOTPSecretParams) :=
  match s.lib.totpGenerate draw.seed "Skolva" email with
  | none => .error .totp
  | some (secret, url) =>
      match s.lib.encrypt draw.nonce secret with
      | none => .error .cipher
      | some encrypted =>
          match (List.ofFn draw.codes).mapM (generateRecoveryCode s.lib) with
          | .error err => .error err
          | .ok codes =>
              .ok (url, codes.map Prod.fst, {
                secretEncrypted := encrypted
                recoveryCodesHash := codes.map Prod.snd })

/-- The new factor is to be confirmed. -/
theorem newFactor_disabled {draw : SetupDraw} {email url : String} {codes : List Bytes}
    {params : UpsertTOTPSecretParams}
    (hnew : s.newFactor draw email = .ok (url, codes, params)) : params.isEnabled = false := by
  unfold newFactor at hnew
  split at hnew
  · cases hnew
  · split at hnew
    · cases hnew
    · split at hnew
      · cases hnew
      · cases hnew
        rfl

/-- `Setup2FA` after it has read a row that is not enabled. -/
theorem setup2FAAfter_disabled (draw : SetupDraw) (u : Uuid)
    {read : Except CallError UserTotpSecret}
    (hdisabled : (valueOr UserTotpSecret.zero read).isEnabled = false) :
    s.setup2FAAfter draw u read = (do
      match ← getUser u with
      | .error err => return .error err
      | .ok user =>
          match s.newFactor draw user.email with
          | .error err => return .error err
          | .ok (url, codes, params) =>
              match ← upsertTOTPSecret u params with
              | .error cause => return .error (.call cause)
              | .ok _ => return .ok (url, codes)) := by
  unfold setup2FAAfter
  dsimp only
  rw [if_neg (by simp [hdisabled])]
  congr 1
  funext found
  cases found with
  | error err => rfl
  | ok user =>
      unfold newFactor
      dsimp only
      cases s.lib.totpGenerate draw.seed "Skolva" user.email with
      | none => rfl
      | some key =>
          obtain ⟨secret, url⟩ := key
          dsimp only
          cases s.lib.encrypt draw.nonce secret with
          | none => rfl
          | some encrypted =>
              dsimp only
              cases (List.ofFn draw.codes).mapM (generateRecoveryCode s.lib) with
              | error err => rfl
              | ok codes => rfl

/-! ## The calls they make -/

section Uses

variable {allowed : Op → Prop} {userID : Uuid}

theorem uses_upsert {params : UpsertTOTPSecretParams} {α : Type}
    {next : Except CallError Unit → Prog α}
    (hwrite : ∀ params, allowed (.upsertTOTPSecret userID params))
    (hnext : ∀ resp, (next resp).Uses allowed) :
    (upsertTOTPSecret userID params >>= next).Uses allowed :=
  Program.uses_bind (Program.uses_perform (hwrite params)) hnext

theorem uses_setup2FA (draw : SetupDraw) (hread : allowed (.getTOTPSecret userID))
    (hget : allowed (.getUserByID userID))
    (hwrite : ∀ params, allowed (.upsertTOTPSecret userID params)) :
    (s.setup2FA draw userID).Uses allowed := by
  refine Program.uses_bind (Program.uses_perform hread) fun read => ?_
  unfold setup2FAAfter
  dsimp only
  split
  · exact Program.uses_pure _
  · refine Program.uses_bind (uses_getUser hget) fun found => ?_
    split
    · exact Program.uses_pure _
    · split
      · exact Program.uses_pure _
      · split
        · exact Program.uses_pure _
        · split
          · exact Program.uses_pure _
          · refine uses_upsert hwrite fun resp => ?_
            cases resp <;> exact Program.uses_pure _

theorem uses_confirm2FA (code : Bytes) (hread : allowed (.getTOTPSecret userID))
    (hwrite : ∀ params, allowed (.upsertTOTPSecret userID params)) :
    (s.confirm2FA userID code).Uses allowed := by
  refine Program.uses_bind (Program.uses_perform hread) fun read => ?_
  unfold confirm2FAAfter
  split
  · exact Program.uses_pure _
  · split
    · exact Program.uses_pure _
    · split
      · exact Program.uses_pure _
      · refine Program.uses_bind Program.uses_readClock fun validated => ?_
        split
        · refine Program.uses_bind Program.uses_readClock fun now => ?_
          refine uses_upsert hwrite fun resp => ?_
          cases resp <;> exact Program.uses_pure _
        · exact Program.uses_pure _

theorem uses_isLocked (lockedUntil : Option Nat) : (isLocked lockedUntil).Uses allowed := by
  cases lockedUntil with
  | none => exact Program.uses_pure _
  | some instant => exact Program.uses_bind Program.uses_readClock fun _ => Program.uses_pure _

theorem uses_acceptTOTP (row : UserTotpSecret)
    (hwrite : ∀ params, allowed (.upsertTOTPSecret userID params)) :
    (acceptTOTP userID row).Uses allowed := by
  refine Program.uses_bind Program.uses_readClock fun now => ?_
  refine uses_upsert hwrite fun resp => ?_
  cases resp <;> exact Program.uses_pure _

theorem uses_rejectTOTP (row : UserTotpSecret)
    (hwrite : ∀ params, allowed (.upsertTOTPSecret userID params)) :
    (rejectTOTP userID row).Uses allowed := by
  refine Program.uses_bind ?_ fun lock => ?_
  · unfold nextLock
    split
    · exact Program.uses_bind Program.uses_readClock fun _ => Program.uses_pure _
    · exact Program.uses_pure _
  · refine uses_upsert hwrite fun resp => ?_
    cases resp <;> exact Program.uses_pure _

theorem uses_verify2FA (code : Bytes) (hread : allowed (.getTOTPSecret userID))
    (hwrite : ∀ params, allowed (.upsertTOTPSecret userID params)) :
    (s.verify2FA userID code).Uses allowed := by
  refine Program.uses_bind (Program.uses_perform hread) fun read => ?_
  unfold verify2FAAfter
  split
  · exact Program.uses_pure _
  · split
    · refine Program.uses_bind (uses_isLocked _) fun locked => ?_
      split
      · exact Program.uses_pure _
      · split
        · exact Program.uses_pure _
        · refine Program.uses_bind Program.uses_readClock fun validated => ?_
          split
          · exact uses_acceptTOTP _ hwrite
          · exact uses_rejectTOTP _ hwrite
    · exact Program.uses_pure _

theorem uses_consumeRecoveryCode (code : Bytes) (hread : allowed (.getTOTPSecret userID))
    (hwrite : ∀ params, allowed (.upsertTOTPSecret userID params)) :
    (s.consumeRecoveryCode userID code).Uses allowed := by
  refine Program.uses_bind (Program.uses_perform hread) fun read => ?_
  unfold consumeRecoveryCodeAfter
  split
  · exact Program.uses_pure _
  · split
    · split
      · exact Program.uses_pure _
      · refine uses_upsert hwrite fun resp => ?_
        cases resp <;> exact Program.uses_pure _
    · exact Program.uses_pure _

theorem uses_disable2FA (code : Bytes) (hread : allowed (.getTOTPSecret userID))
    (hwrite : ∀ params, allowed (.upsertTOTPSecret userID params))
    (hdelete : allowed (.deleteTOTPSecret userID)) :
    (s.disable2FA userID code).Uses allowed := by
  refine Program.uses_bind (s.uses_verify2FA code hread hwrite) fun verified => ?_
  split
  · exact Program.uses_pure _
  · refine Program.uses_bind (Program.uses_perform hdelete) fun resp => ?_
    cases resp <;> exact Program.uses_pure _

theorem uses_issueAccessForUser (jti : Uuid) (hget : allowed (.getUserByID userID))
    (hroles : allowed (.listUserRoles userID)) (hperms : allowed (.getPermissionsForUser userID)) :
    (s.issueAccessForUser jti userID).Uses allowed := by
  refine Program.uses_bind (Program.uses_perform hget) fun u => ?_
  split
  · exact Program.uses_pure _
  · refine Program.uses_bind (Program.uses_perform hroles) fun roleRows => ?_
    split
    · exact Program.uses_pure _
    · refine Program.uses_bind (Program.uses_perform hperms) fun perms => ?_
      split
      · exact Program.uses_pure _
      · exact s.tm.uses_issue s.lib ..

end Uses

/-! ## What they accept -/

/-- The lock is set and lies in the future. -/
def LockedAt (lockedUntil : Option Nat) (now : Nat) : Prop := ∃ instant ∈ lockedUntil, now < instant

/-- TOTP is active for the user and not locked, and the code fits the secret. -/
def AcceptsTOTP (db : Db) (now : Nat) (userID : Uuid) (code : Bytes) : Prop :=
  ∃ row ∈ db.totp userID, row.isEnabled = true ∧ ¬LockedAt row.lockedUntil now ∧
    ∃ secret ∈ s.lib.decrypt row.secretEncrypted, s.lib.totpValidate code secret now = true

/-- TOTP is active for the user, and the code is one of the stored recovery codes. -/
def AcceptsRecoveryCode (db : Db) (userID : Uuid) (code : Bytes) : Prop :=
  ∃ row ∈ db.totp userID, row.isEnabled = true ∧
    ∃ hash ∈ row.recoveryCodesHash, s.lib.bcryptCompare hash code = true

section Accepts

variable (now : Nat) (db : Db) (userID : Uuid) (code : Bytes)

theorem run_isLocked {St : Type} (serve : Nat → (op : Op) → St → op.Resp × St) (store : St)
    (lockedUntil : Option Nat) :
    ∃ locked, (isLocked lockedUntil).run serve now store = (locked, store) ∧
      (locked = true ↔ LockedAt lockedUntil now) := by
  cases lockedUntil with
  | none => exact ⟨_, rfl, by simp [LockedAt]⟩
  | some instant => exact ⟨_, rfl, by simp [LockedAt]⟩

theorem run_acceptTOTP (row : UserTotpSecret) :
    ((acceptTOTP userID row).run (serve s.lib) now db).1 = .ok () := rfl

theorem run_rejectTOTP (row : UserTotpSecret) :
    ((rejectTOTP userID row).run (serve s.lib) now db).1 =
      .error (.unauthorized "invalid TOTP code") := by
  unfold rejectTOTP
  rw [Program.run_bind, Program.run_bind]
  rfl

theorem run_verify2FA_ok :
    ((s.verify2FA userID code).run (serve s.lib) now db).1 = .ok () ↔
      s.AcceptsTOTP db now userID code := by
  unfold verify2FA verify2FAAfter AcceptsTOTP
  rw [Program.run_bind, Program.run_perform]
  cases hrow : db.totp userID with
  | none => simp [serve, hrow, one]
  | some row =>
      simp only [serve, hrow, one]
      obtain ⟨locked, hrun, hlocked⟩ := run_isLocked now (serve s.lib) db row.lockedUntil
      by_cases henabled : row.isEnabled = true
      · rw [if_pos henabled, Program.run_bind, hrun]
        by_cases hlock : locked = true
        · simp [hlock, henabled, hlocked.mp hlock]
        · have hunlocked := mt hlocked.mpr hlock
          cases hsecret : s.lib.decrypt row.secretEncrypted with
          | none => simp [hlock, hsecret]
          | some secret =>
              by_cases hvalid : s.lib.totpValidate code secret now = true
              · simp [hlock, hsecret, hvalid, henabled, hunlocked, run_acceptTOTP]
              · simp [hlock, hsecret, hvalid, run_rejectTOTP]
      · simp [henabled]

/-- `Setup2FA` changes nothing, or writes a new factor where none is enabled. -/
theorem run_setup2FA (draw : SetupDraw) :
    (∃ err, (s.setup2FA draw userID).run (serve s.lib) now db = (.error err, db)) ∨
    (∀ row ∈ db.totp userID, row.isEnabled = false) ∧ ∃ user url codes params,
      db.liveUser userID = some user ∧ s.newFactor draw user.email = .ok (url, codes, params) ∧
      (s.setup2FA draw userID).run (serve s.lib) now db =
        (.ok (url, codes), db.setTotp userID (some (params.row now (db.totp userID)))) := by
  unfold setup2FA
  rw [Program.run_bind, Program.run_perform]
  dsimp only [serve]
  by_cases henabled : (valueOr UserTotpSecret.zero (one (db.totp userID))).isEnabled = true
  · unfold setup2FAAfter
    dsimp only
    rw [if_pos henabled]
    exact .inl ⟨_, rfl⟩
  · have hdisabled : ∀ row ∈ db.totp userID, row.isEnabled = false := by
      intro row hrow
      rw [Option.mem_def] at hrow
      simpa [hrow, one] using henabled
    rw [s.setup2FAAfter_disabled draw userID (Bool.eq_false_iff.mpr henabled), Program.run_bind,
      run_getUser]
    cases huser : db.liveUser userID with
    | none => exact .inl ⟨_, rfl⟩
    | some user =>
        cases hnew : s.newFactor draw user.email with
        | error err =>
            simp only [userFrom, User.row_email, hnew]
            exact .inl ⟨err, rfl⟩
        | ok factor =>
            obtain ⟨url, codes, params⟩ := factor
            simp only [userFrom, User.row_email, hnew]
            exact .inr ⟨hdisabled, user, url, codes, params, rfl, hnew, rfl⟩

theorem run_consumeRecoveryCode_ok :
    ((s.consumeRecoveryCode userID code).run (serve s.lib) now db).1 = .ok () ↔
      s.AcceptsRecoveryCode db userID code := by
  unfold consumeRecoveryCode consumeRecoveryCodeAfter AcceptsRecoveryCode
  rw [Program.run_bind, Program.run_perform]
  cases hrow : db.totp userID with
  | none => simp [serve, hrow, one]
  | some row =>
      simp only [serve, hrow, one]
      by_cases henabled : row.isEnabled = true
      · rw [if_pos henabled]
        cases hfound : row.recoveryCodesHash.findIdx?
            (fun hash => s.lib.bcryptCompare hash code) with
        | none =>
            rw [List.findIdx?_eq_none_iff] at hfound
            have hnone : ¬∃ hash ∈ row.recoveryCodesHash, s.lib.bcryptCompare hash code = true := by
              rintro ⟨hash, hhash, hcompare⟩
              simp [hfound hash hhash] at hcompare
            simp [henabled, hnone]
        | some found =>
            obtain ⟨hlength, hcompare, -⟩ := List.findIdx?_eq_some_iff_getElem.mp hfound
            have hsome : ∃ hash ∈ row.recoveryCodesHash, s.lib.bcryptCompare hash code = true :=
              ⟨_, List.getElem_mem hlength, hcompare⟩
            simp [henabled, serve, hsome]
      · simp [henabled]

/-- The access token goes to the account with this identifier, whatever its state. -/
theorem run_issueAccessForUser (jti : Uuid) :
    (s.issueAccessForUser jti userID).run (serve s.lib) now db =
      (match db.liveUser userID with
        | none => .error (.call .noRows)
        | some user => .ok (s.tm.signed s.lib now jti (s.lib.uuidString userID) user.email
            (((db.liveRoles userID).insertionSort (fun left right => left.slug ≤ right.slug)).map
              Role.slug)
            ((db.permissionsFor userID).dedup.insertionSort (fun left right => left ≤ right))
            tokenKindAccess s.tm.accessTTL), db) := by
  unfold issueAccessForUser TokenManager.issueAccess
  rw [Program.run_bind, Program.run_perform]
  cases huser : db.liveUser userID with
  | none => simp [serve, huser, one]
  | some user => simp [serve, huser, one, TokenManager.run_issue]

end Accepts

end Service

end Skolva.Auth
