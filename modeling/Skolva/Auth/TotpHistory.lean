import Skolva.Auth.Calls
import Skolva.Auth.Login

/-! # The TOTP lock in a run of calls

Calls of the service come one after the other. The counter and the lock in the row
of a user say how many wrong codes there were since the last correct one, and when
the last of them was.
-/

namespace Skolva.Auth

open Effect Time

variable (s : Service)

/-! ## What a call finds out -/

/-- What a call finds out about a user who has TOTP. -/
inductive TotpVerdict where
  | confirmed
  | accepted
  | recovered
  | wrong
  deriving DecidableEq

instance (lockedUntil : Option Nat) (now : Nat) : Decidable (Service.LockedAt lockedUntil now) :=
  inferInstanceAs (Decidable (∃ instant ∈ lockedUntil, now < instant))

/-- The result of the comparison in `Verify2FA`, if it comes to one. -/
def Service.totpComparison (now : Nat) (db : Db) (u : Uuid) (code : Bytes) : Option Bool :=
  match db.totp u with
  | none => none
  | some row =>
      if row.isEnabled = true ∧ ¬Service.LockedAt row.lockedUntil now then
        (s.lib.decrypt row.secretEncrypted).map fun secret => s.lib.totpValidate code secret now
      else none

variable {s}

def Service.totpVerdict (u : Uuid) (entry : s.CallEntry) : Option TotpVerdict :=
  match entry.request with
  | .confirm2FA userID _ =>
      if userID = u ∧ entry.reply.isOk = true then some .confirmed else none
  | .verify2FA userID code | .disable2FA userID code =>
      if userID = u then
        (s.totpComparison entry.instant entry.before u code).map fun valid =>
          if valid then .accepted else .wrong
      else none
  | .consumeRecoveryCode userID _ =>
      if userID = u ∧ entry.reply.isOk = true then some .recovered else none
  | _ => none

/-- The wrong codes since the last correct one, and when the last of them was. -/
structure TotpTally where
  wrong : Nat
  lastWrong : Option Nat
  deriving DecidableEq

def TotpTally.after (tally : TotpTally) (now : Nat) : Option TotpVerdict → TotpTally
  | none => tally
  | some .wrong => ⟨tally.wrong + 1, some now⟩
  | some _ => ⟨0, none⟩

/-- The tally after a history, from the tally at its start. -/
def Service.totpTally (u : Uuid) (first : TotpTally) (history : List s.CallEntry) : TotpTally :=
  history.foldr (fun entry tally => tally.after entry.instant (Service.totpVerdict u entry)) first

/-- The row records the tally. -/
structure UserTotpSecret.Records (row : UserTotpSecret) (tally : TotpTally) : Prop where
  attempts : row.failedAttempts.toInt = tally.wrong
  locked : row.lockedUntil ≠ none ↔ maxFailedAttempts ≤ tally.wrong
  lockedUntil : maxFailedAttempts ≤ tally.wrong →
    ∃ instant ∈ tally.lastWrong, row.lockedUntil = some (instant + lockoutDuration)

/-- The row of the user records the tally, if it is enabled. -/
def Db.RecordsTotp (db : Db) (u : Uuid) (tally : TotpTally) : Prop :=
  ∀ row ∈ db.totp u, row.isEnabled = true → row.Records tally

theorem records_zero {row : UserTotpSecret} (hfailed : row.failedAttempts = 0)
    (hlock : row.lockedUntil = none) : row.Records ⟨0, none⟩ where
  attempts := by simp [hfailed]
  locked := by simp [hlock, maxFailedAttempts]
  lockedUntil := fun hmax => absurd hmax (by decide)

/-! ## One call -/

section Step

variable (now : Nat) (db : Db) {u : Uuid}

/-- The row after a wrong code. -/
def UserTotpSecret.counted (row : UserTotpSecret) (now : Nat) : UserTotpSecret :=
  UpsertTOTPSecretParams.row {
    secretEncrypted := row.secretEncrypted
    isEnabled := true
    verifiedAt := row.verifiedAt
    recoveryCodesHash := row.recoveryCodesHash
    failedAttempts := row.failedAttempts + 1
    lockedUntil :=
      if maxFailedAttempts ≤ (row.failedAttempts + 1).toInt then some (now + lockoutDuration)
      else none }
    now (some row)

/-- The row after a confirmation. -/
def UserTotpSecret.confirmed (row : UserTotpSecret) (now : Nat) : UserTotpSecret :=
  UpsertTOTPSecretParams.row {
    secretEncrypted := row.secretEncrypted
    isEnabled := true
    verifiedAt := some now
    recoveryCodesHash := row.recoveryCodesHash }
    now (some row)

/-- The row after a correct code. -/
def UserTotpSecret.used (row : UserTotpSecret) (now : Nat) : UserTotpSecret :=
  UpsertTOTPSecretParams.row {
    secretEncrypted := row.secretEncrypted
    isEnabled := true
    verifiedAt := row.verifiedAt
    recoveryCodesHash := row.recoveryCodesHash
    lastUsedAt := some now }
    now (some row)

/-- The row after one of its recovery codes is spent. -/
def UserTotpSecret.spent (row : UserTotpSecret) (found now : Nat) : UserTotpSecret :=
  UpsertTOTPSecretParams.row {
    secretEncrypted := row.secretEncrypted
    isEnabled := true
    verifiedAt := row.verifiedAt
    recoveryCodesHash := row.recoveryCodesHash.eraseIdx found }
    now (some row)

theorem run_rejectTOTP_state {row : UserTotpSecret} (hrow : db.totp u = some row) :
    ((Service.rejectTOTP u row).run (serve s.lib) now db).2 =
      db.setTotp u (some (row.counted now)) := by
  unfold Service.rejectTOTP Service.nextLock UserTotpSecret.counted
  rw [Program.run_bind]
  by_cases hmax : maxFailedAttempts ≤ (row.failedAttempts + 1).toInt
  · simp only [if_pos hmax]
    rw [← hrow]
    rfl
  · simp only [if_neg hmax]
    rw [← hrow]
    rfl

/-- `Verify2FA` accepts a code, counts a wrong one, or changes nothing. -/
theorem run_verify2FA (code : Bytes) :
    (s.totpComparison now db u code = none ∧
      ∃ err, (s.verify2FA u code).run (serve s.lib) now db = (.error err, db)) ∨
    ∃ row ∈ db.totp u, row.isEnabled = true ∧ ¬Service.LockedAt row.lockedUntil now ∧
      ((s.totpComparison now db u code = some true ∧
        (s.verify2FA u code).run (serve s.lib) now db =
          (.ok (), db.setTotp u (some (row.used now)))) ∨
      (s.totpComparison now db u code = some false ∧
        (s.verify2FA u code).run (serve s.lib) now db =
          (.error (.unauthorized "invalid TOTP code"),
            db.setTotp u (some (row.counted now))))) := by
  unfold Service.verify2FA Service.verify2FAAfter Service.totpComparison
  rw [Program.run_bind, Program.run_perform]
  cases hrow : db.totp u with
  | none => exact .inl ⟨rfl, _, by simp only [serve, hrow, one]; rfl⟩
  | some row =>
      simp only [serve, hrow, one]
      obtain ⟨locked, hrun, hlocked⟩ :=
        Service.run_isLocked now (serve s.lib) db row.lockedUntil
      by_cases henabled : row.isEnabled = true
      · rw [if_pos henabled, Program.run_bind, hrun]
        cases locked with
        | true => exact .inl ⟨if_neg fun hopen => hopen.2 (hlocked.mp rfl), _, rfl⟩
        | false =>
            have hopen : ¬Service.LockedAt row.lockedUntil now :=
              mt hlocked.mpr Bool.false_ne_true
            rw [if_pos ⟨henabled, hopen⟩]
            dsimp only
            rw [if_neg Bool.false_ne_true]
            cases s.lib.decrypt row.secretEncrypted with
            | none => exact .inl ⟨rfl, _, rfl⟩
            | some secret =>
                refine .inr ⟨row, rfl, henabled, hopen, ?_⟩
                dsimp only [Option.map_some]
                rw [Program.run_bind, Program.run_readClock]
                cases hvalid : s.lib.totpValidate code secret now with
                | true =>
                    refine .inl ⟨rfl, ?_⟩
                    unfold UserTotpSecret.used
                    rw [← hrow]
                    rfl
                | false =>
                    refine .inr ⟨rfl, Prod.ext (s.run_rejectTOTP now db u row) ?_⟩
                    exact run_rejectTOTP_state now db hrow
      · rw [if_neg henabled]
        exact .inl ⟨if_neg fun hopen => henabled hopen.1, _, rfl⟩

/-- `Disable2FA` goes on from an accepted code to remove the row. -/
theorem run_disable2FA (code : Bytes) :
    (s.totpComparison now db u code = none ∧
      ∃ err, (s.disable2FA u code).run (serve s.lib) now db = (.error err, db)) ∨
    ∃ row ∈ db.totp u, row.isEnabled = true ∧ ¬Service.LockedAt row.lockedUntil now ∧
      ((s.totpComparison now db u code = some true ∧
        (s.disable2FA u code).run (serve s.lib) now db =
          (.ok (), (db.setTotp u (some (row.used now))).setTotp u none)) ∨
      (s.totpComparison now db u code = some false ∧
        (s.disable2FA u code).run (serve s.lib) now db =
          (.error (.unauthorized "invalid code; 2FA remains active"),
            db.setTotp u (some (row.counted now))))) := by
  unfold Service.disable2FA
  rw [Program.run_bind]
  rcases run_verify2FA now db code with ⟨hnone, err, hrun⟩ |
    ⟨row, hrow, henabled, hopen, ⟨hverdict, hrun⟩ | ⟨hverdict, hrun⟩⟩
  · rw [hrun]
    exact .inl ⟨hnone, _, rfl⟩
  · rw [hrun]
    exact .inr ⟨row, hrow, henabled, hopen, .inl ⟨hverdict, rfl⟩⟩
  · rw [hrun]
    exact .inr ⟨row, hrow, henabled, hopen, .inr ⟨hverdict, rfl⟩⟩

/-- `Confirm2FA` enables a disabled row, or changes nothing. -/
theorem run_confirm2FA (code : Bytes) :
    (∃ err, (s.confirm2FA u code).run (serve s.lib) now db = (.error err, db)) ∨
    ∃ row ∈ db.totp u, row.isEnabled = false ∧
      (s.confirm2FA u code).run (serve s.lib) now db =
        (.ok (), db.setTotp u (some (row.confirmed now))) := by
  unfold Service.confirm2FA Service.confirm2FAAfter
  rw [Program.run_bind, Program.run_perform]
  cases hrow : db.totp u with
  | none => exact .inl ⟨_, by simp only [serve, hrow, one]; rfl⟩
  | some row =>
      simp only [serve, hrow, one]
      by_cases henabled : row.isEnabled = true
      · rw [if_pos henabled]
        exact .inl ⟨_, rfl⟩
      · rw [if_neg henabled]
        cases s.lib.decrypt row.secretEncrypted with
        | none => exact .inl ⟨_, rfl⟩
        | some secret =>
            dsimp only
            rw [Program.run_bind, Program.run_readClock]
            cases s.lib.totpValidate code secret now with
            | false => exact .inl ⟨_, rfl⟩
            | true =>
                refine .inr ⟨row, rfl, Bool.eq_false_iff.mpr henabled, ?_⟩
                unfold UserTotpSecret.confirmed
                rw [← hrow]
                rfl

/-- `ConsumeRecoveryCode` takes the first hash that fits out of the row and starts the
count anew, or changes nothing. -/
theorem run_consumeRecoveryCode (code : Bytes) :
    (∃ err, (s.consumeRecoveryCode u code).run (serve s.lib) now db = (.error err, db)) ∨
    ∃ row ∈ db.totp u, row.isEnabled = true ∧ ∃ found,
      row.recoveryCodesHash.findIdx? (fun hash => s.lib.bcryptCompare hash code) = some found ∧
      (s.consumeRecoveryCode u code).run (serve s.lib) now db =
        (.ok (), db.setTotp u (some (row.spent found now))) := by
  unfold Service.consumeRecoveryCode Service.consumeRecoveryCodeAfter
  rw [Program.run_bind, Program.run_perform]
  cases hrow : db.totp u with
  | none => exact .inl ⟨_, by simp only [serve, hrow, one]; rfl⟩
  | some row =>
      simp only [serve, hrow, one]
      by_cases henabled : row.isEnabled = true
      · rw [if_pos henabled]
        cases hfound : row.recoveryCodesHash.findIdx?
            (fun hash => s.lib.bcryptCompare hash code) with
        | none => exact .inl ⟨_, rfl⟩
        | some found =>
            refine .inr ⟨row, rfl, henabled, found, hfound, ?_⟩
            unfold UserTotpSecret.spent
            rw [← hrow]
            rfl
      · rw [if_neg henabled]
        exact .inl ⟨_, rfl⟩

/-- The row of the user before and after a call. -/
inductive TotpWrite (now : Nat) :
    Option TotpVerdict → Option UserTotpSecret → Option UserTotpSecret → Prop where
  | quiet (row : Option UserTotpSecret) : TotpWrite now none row row
  | setup {before : Option UserTotpSecret} {pending : UserTotpSecret}
      (hbefore : ∀ row ∈ before, row.isEnabled = false) (hpending : pending.isEnabled = false) :
      TotpWrite now none before (some pending)
  | confirmed {row : UserTotpSecret} (hrow : row.isEnabled = false) :
      TotpWrite now (some .confirmed) (some row) (some (row.confirmed now))
  | used {row : UserTotpSecret} (hopen : ¬Service.LockedAt row.lockedUntil now) :
      TotpWrite now (some .accepted) (some row) (some (row.used now))
  | removed {row : UserTotpSecret} (hopen : ¬Service.LockedAt row.lockedUntil now) :
      TotpWrite now (some .accepted) (some row) none
  | spent {row : UserTotpSecret} (henabled : row.isEnabled = true) (found : Nat) :
      TotpWrite now (some .recovered) (some row) (some (row.spent found now))
  | counted {row : UserTotpSecret} (henabled : row.isEnabled = true)
      (hopen : ¬Service.LockedAt row.lockedUntil now) :
      TotpWrite now (some .wrong) (some row) (some (row.counted now))

/-- What a call does to the row of the user. -/
inductive TotpEffect (now : Nat) :
    Option TotpVerdict → Option UserTotpSecret → Option UserTotpSecret → Prop where
  | quiet (row : Option UserTotpSecret) : TotpEffect now none row row
  | setup {before : Option UserTotpSecret} {pending : UserTotpSecret}
      (hbefore : ∀ row ∈ before, row.isEnabled = false) (hpending : pending.isEnabled = false) :
      TotpEffect now none before (some pending)
  | confirmed {row enabled : UserTotpSecret} (hrow : row.isEnabled = false)
      (hfailed : enabled.failedAttempts = 0) (hlock : enabled.lockedUntil = none) :
      TotpEffect now (some .confirmed) (some row) (some enabled)
  | accepted {row : UserTotpSecret} {after : Option UserTotpSecret}
      (hopen : ¬Service.LockedAt row.lockedUntil now)
      (hafter : ∀ accepted ∈ after, accepted.failedAttempts = 0 ∧ accepted.lockedUntil = none) :
      TotpEffect now (some .accepted) (some row) after
  | recovered {row spent : UserTotpSecret} (hfailed : spent.failedAttempts = 0)
      (hlock : spent.lockedUntil = none) :
      TotpEffect now (some .recovered) (some row) (some spent)
  | wrong {row : UserTotpSecret} (henabled : row.isEnabled = true)
      (hopen : ¬Service.LockedAt row.lockedUntil now) :
      TotpEffect now (some .wrong) (some row) (some (row.counted now))

theorem TotpWrite.effect {verdict : Option TotpVerdict} {before after : Option UserTotpSecret}
    (hwrite : TotpWrite now verdict before after) : TotpEffect now verdict before after := by
  cases hwrite with
  | quiet => exact .quiet _
  | setup hbefore hpending => exact .setup hbefore hpending
  | confirmed hrow => exact .confirmed hrow rfl rfl
  | used hopen =>
      refine .accepted hopen fun stored hstored => ?_
      obtain rfl := Option.some.inj hstored
      exact ⟨rfl, rfl⟩
  | removed hopen => exact .accepted hopen fun _ hstored => nomatch hstored
  | spent _ _ => exact .recovered rfl rfl
  | counted henabled hopen => exact .wrong henabled hopen

theorem totpWrite_setup2FA (draw : SetupDraw) :
    TotpWrite now none (db.totp u)
      (((s.setup2FA draw u).run (serve s.lib) now db).2.totp u) := by
  rcases s.run_setup2FA now db u draw with ⟨err, hrun⟩ |
    ⟨hdisabled, user, url, codes, params, -, hnew, hrun⟩
  · rw [hrun]
    exact .quiet _
  · rw [hrun, Db.setTotp_self]
    exact .setup hdisabled (s.newFactor_disabled hnew)

theorem totpWrite_confirm2FA (code : Bytes) :
    TotpWrite now
      (if ((s.confirm2FA u code).run (serve s.lib) now db).1.isOk = true then some .confirmed
        else none)
      (db.totp u) (((s.confirm2FA u code).run (serve s.lib) now db).2.totp u) := by
  rcases run_confirm2FA now db code with ⟨err, hrun⟩ | ⟨row, hrow, hdisabled, hrun⟩
  · rw [hrun]
    exact .quiet _
  · rw [hrun, Db.setTotp_self, Option.mem_def.mp hrow]
    exact .confirmed hdisabled

theorem totpWrite_verify2FA (code : Bytes) :
    TotpWrite now
      ((s.totpComparison now db u code).map fun valid => if valid then .accepted else .wrong)
      (db.totp u) (((s.verify2FA u code).run (serve s.lib) now db).2.totp u) := by
  rcases run_verify2FA now db code with ⟨hnone, err, hrun⟩ |
    ⟨row, hrow, henabled, hopen, ⟨hverdict, hrun⟩ | ⟨hverdict, hrun⟩⟩
  · rw [hrun, hnone]
    exact .quiet _
  · rw [hrun, hverdict, Option.mem_def.mp hrow, Db.setTotp_self]
    exact .used hopen
  · rw [hrun, hverdict, Option.mem_def.mp hrow, Db.setTotp_self]
    exact .counted henabled hopen

/-- After a correct code the row is gone. -/
theorem totpWrite_disable2FA (code : Bytes) :
    TotpWrite now
      ((s.totpComparison now db u code).map fun valid => if valid then .accepted else .wrong)
      (db.totp u) (((s.disable2FA u code).run (serve s.lib) now db).2.totp u) := by
  rcases run_disable2FA now db code with ⟨hnone, err, hrun⟩ |
    ⟨row, hrow, henabled, hopen, ⟨hverdict, hrun⟩ | ⟨hverdict, hrun⟩⟩
  · rw [hrun, hnone]
    exact .quiet _
  · rw [hrun, hverdict, Option.mem_def.mp hrow, Db.setTotp_self]
    exact .removed hopen
  · rw [hrun, hverdict, Option.mem_def.mp hrow, Db.setTotp_self]
    exact .counted henabled hopen

theorem totpWrite_consumeRecoveryCode (code : Bytes) :
    TotpWrite now
      (if ((s.consumeRecoveryCode u code).run (serve s.lib) now db).1.isOk = true then
        some .recovered else none)
      (db.totp u) (((s.consumeRecoveryCode u code).run (serve s.lib) now db).2.totp u) := by
  rcases run_consumeRecoveryCode now db code with ⟨err, hrun⟩ | ⟨row, hrow, henabled, found, -, hrun⟩
  · rw [hrun]
    exact .quiet _
  · rw [hrun, Db.setTotp_self, Option.mem_def.mp hrow]
    exact .spent henabled found

end Step

section Entry

variable {u : Uuid} {entry : s.CallEntry}
  (hprocess : s.processCall entry.instant entry.request entry.before = (entry.reply, entry.after))

theorem isOk_map {α β : Type} (f : α → β) (result : Except Err α) :
    (result.map f).isOk = result.isOk := by
  cases result <;> rfl

include hprocess

theorem totpWrite_processCall :
    TotpWrite entry.instant (Service.totpVerdict u entry) (entry.before.totp u)
      (entry.after.totp u) := by
  obtain ⟨before, now, request, reply, after⟩ := entry
  dsimp only at hprocess ⊢
  have hother : ¬request.TouchesTotp u → TotpWrite now none (before.totp u) (after.totp u) := by
    intro huntouched
    have hsame := Service.processCall_totp (s := s) huntouched now before
    rw [hprocess] at hsame
    rw [show after.totp u = before.totp u from hsame]
    exact .quiet _
  have hforeign : ∀ {userID : Uuid}, userID ≠ u → ¬u = userID := fun hne heq => hne heq.symm
  unfold Service.totpVerdict
  cases request with
  | setup2FA draw userID =>
      by_cases howner : userID = u
      · subst howner
        obtain ⟨-, rfl⟩ := Service.processCall_answered rfl hprocess
        exact totpWrite_setup2FA now before draw
      · exact hother (hforeign howner)
  | confirm2FA userID code =>
      by_cases howner : userID = u
      · subst howner
        obtain ⟨rfl, rfl⟩ := Service.processCall_answered rfl hprocess
        simp only [isOk_map, true_and]
        exact totpWrite_confirm2FA now before code
      · simp only [howner, false_and, if_false]
        exact hother (hforeign howner)
  | verify2FA userID code =>
      by_cases howner : userID = u
      · subst howner
        obtain ⟨-, rfl⟩ := Service.processCall_answered rfl hprocess
        simp only [if_true]
        exact totpWrite_verify2FA now before code
      · simp only [howner, if_false]
        exact hother (hforeign howner)
  | disable2FA userID code =>
      by_cases howner : userID = u
      · subst howner
        obtain ⟨-, rfl⟩ := Service.processCall_answered rfl hprocess
        simp only [if_true]
        exact totpWrite_disable2FA now before code
      · simp only [howner, if_false]
        exact hother (hforeign howner)
  | consumeRecoveryCode userID code =>
      by_cases howner : userID = u
      · subst howner
        obtain ⟨rfl, rfl⟩ := Service.processCall_answered rfl hprocess
        simp only [isOk_map, true_and]
        exact totpWrite_consumeRecoveryCode now before code
      · simp only [howner, false_and, if_false]
        exact hother (hforeign howner)
  | _ => exact hother id

theorem totpEffect_processCall :
    TotpEffect entry.instant (Service.totpVerdict u entry) (entry.before.totp u)
      (entry.after.totp u) := (totpWrite_processCall hprocess).effect

end Entry

/-! ## Runs -/

theorem counted_lockedUntil {row : UserTotpSecret} {now : Nat}
    (hmax : maxFailedAttempts ≤ (row.failedAttempts + 1).toInt) :
    (row.counted now).lockedUntil = some (now + lockoutDuration) := if_pos hmax

theorem records_counted {row : UserTotpSecret} {tally : TotpTally} (hrow : row.Records tally)
    (hfits : row.failedAttempts ≠ Int32.maxValue) (now : Nat) :
    (row.counted now).Records ⟨tally.wrong + 1, some now⟩ := by
  have hcount : (row.failedAttempts + 1).toInt = (tally.wrong + 1 : Nat) := by
    rw [toInt_succ hfits, hrow.attempts]
    rfl
  have hmax : maxFailedAttempts ≤ (row.failedAttempts + 1).toInt ↔
      maxFailedAttempts ≤ tally.wrong + 1 := by
    rw [hcount, Int.ofNat_le]
  refine ⟨hcount, Iff.trans ?_ hmax,
    fun hlocks => ⟨now, rfl, counted_lockedUntil (hmax.mpr hlocks)⟩⟩
  change (if maxFailedAttempts ≤ (row.failedAttempts + 1).toInt then some (now + lockoutDuration)
    else none) ≠ none ↔ _
  by_cases hlocks : maxFailedAttempts ≤ (row.failedAttempts + 1).toInt
  · rw [if_pos hlocks]
    exact iff_of_true (Option.some_ne_none _) hlocks
  · rw [if_neg hlocks]
    exact iff_of_false (fun hnone => hnone rfl) hlocks

/-- A wrong code is counted on a counter that has wrapped, or that wraps now. -/
def Service.Overruns (u : Uuid) (entry : s.CallEntry) : Prop :=
  Service.totpVerdict u entry = some .wrong ∧
    ∃ row ∈ entry.before.totp u, row.failedAttempts < 0 ∨ row.failedAttempts = Int32.maxValue

instance (u : Uuid) (entry : s.CallEntry) : Decidable (Service.Overruns u entry) :=
  inferInstanceAs (Decidable (_ ∧ ∃ row ∈ entry.before.totp u, _))

/-- The row keeps recording the tally. -/
theorem TotpEffect.records {now : Nat} {verdict : Option TotpVerdict}
    {before after : Option UserTotpSecret} (heffect : TotpEffect now verdict before after)
    (hfits : verdict = some .wrong → ∀ row ∈ before, row.failedAttempts ≠ Int32.maxValue)
    {tally : TotpTally} (hbefore : ∀ row ∈ before, row.isEnabled = true → row.Records tally) :
    ∀ row ∈ after, row.isEnabled = true → row.Records (tally.after now verdict) := by
  intro row hrow henabled
  cases heffect with
  | quiet => exact hbefore row hrow henabled
  | setup hdisabled hpending =>
      obtain rfl := Option.some.inj hrow
      exact nomatch hpending.symm.trans henabled
  | confirmed _ hfailed hlock =>
      obtain rfl := Option.some.inj hrow
      exact records_zero hfailed hlock
  | accepted _ hafter => exact records_zero (hafter row hrow).1 (hafter row hrow).2
  | recovered hfailed hlock =>
      obtain rfl := Option.some.inj hrow
      exact records_zero hfailed hlock
  | wrong hcounted _ =>
      obtain rfl := Option.some.inj hrow
      exact records_counted (hbefore _ rfl hcounted) (hfits rfl _ rfl) now

/-- The factor is on, and locked until this instant at least. -/
def Db.TotpLockedUntil (db : Db) (u : Uuid) (unlock : Nat) : Prop :=
  ∃ row ∈ db.totp u, row.isEnabled = true ∧ maxFailedAttempts ≤ row.failedAttempts.toInt ∧
    ∃ instant ∈ row.lockedUntil, unlock ≤ instant

section Run

variable {start last : Db} {history : List s.CallEntry} {u : Uuid} {first : TotpTally}

theorem fits_of_not_overruns {entry : s.CallEntry} (hcounts : ¬Service.Overruns u entry)
    (hwrong : Service.totpVerdict u entry = some .wrong) :
    ∀ row ∈ entry.before.totp u, row.failedAttempts ≠ Int32.maxValue :=
  fun row hrow hmax => hcounts ⟨hwrong, row, hrow, .inr hmax⟩

theorem recordsTotp_of_run (hrun : s.CallRun start history last)
    (hstart : start.RecordsTotp u first) (hcounts : ∀ entry ∈ history, ¬Service.Overruns u entry) :
    last.RecordsTotp u (Service.totpTally u first history) := by
  induction hrun with
  | nil => exact hstart
  | @cons history before now request hrun _ ih =>
      rw [List.forall_mem_cons] at hcounts
      exact (totpEffect_processCall (s.processCall_entryAt now request before)).records
        (fits_of_not_overruns hcounts.1) (ih hcounts.2)

/-- From the fifth wrong code on, a wrong code locks the factor. -/
theorem totpLockedUntil_of_wrong {wrong : s.CallEntry} {earlier : List s.CallEntry}
    (hrun : s.CallRun start (wrong :: earlier) last) (hstart : start.RecordsTotp u first)
    (hcounts : ∀ entry ∈ wrong :: earlier, ¬Service.Overruns u entry)
    (hverdict : Service.totpVerdict u wrong = some .wrong)
    (hmax : maxFailedAttempts ≤ (Service.totpTally u first (wrong :: earlier)).wrong) :
    last.TotpLockedUntil u (wrong.instant + lockoutDuration) := by
  have hlast := recordsTotp_of_run hrun hstart hcounts
  cases hrun with
  | @cons _ before now request hhistory hadmissible =>
      have heffect : TotpEffect now (some .wrong) (before.totp u)
          ((s.processCall now request before).2.totp u) :=
        hverdict ▸ totpEffect_processCall (s.processCall_entryAt now request before)
      generalize before.totp u = old at heffect
      generalize hafter : (s.processCall now request before).2.totp u = after at heffect
      cases heffect with
      | wrong henabled hopen =>
          have hrecords := hlast _ hafter rfl
          rw [← Int.ofNat_le, ← hrecords.attempts] at hmax
          exact ⟨_, hafter, rfl, hmax, _, counted_lockedUntil hmax, Nat.le_refl _⟩

/-- The lock stays, and can only be prolonged, until a code or a recovery code is accepted. -/
theorem totpLockedUntil_step {entry : s.CallEntry}
    (hprocess : s.processCall entry.instant entry.request entry.before =
      (entry.reply, entry.after)) {unlock : Nat}
    (hlocked : entry.before.TotpLockedUntil u unlock)
    (hafter : unlock ≤ entry.instant + lockoutDuration)
    (hverdict : Service.totpVerdict u entry ≠ some .accepted ∧
      Service.totpVerdict u entry ≠ some .recovered)
    (hfits : Service.totpVerdict u entry = some .wrong →
      ∀ row ∈ entry.before.totp u, row.failedAttempts ≠ Int32.maxValue) :
    entry.after.TotpLockedUntil u unlock := by
  obtain ⟨row, hrow, henabled, hmax, hlock⟩ := hlocked
  have heffect := totpEffect_processCall (u := u) hprocess
  rw [Option.mem_def.mp hrow] at heffect hfits
  generalize hstored : entry.after.totp u = after at heffect
  generalize Service.totpVerdict u entry = verdict at heffect hverdict hfits
  cases heffect with
  | quiet => exact ⟨row, hstored, henabled, hmax, hlock⟩
  | setup hdisabled _ => exact nomatch (hdisabled row rfl).symm.trans henabled
  | confirmed hdisabled _ _ => exact nomatch hdisabled.symm.trans henabled
  | accepted _ _ => exact absurd rfl hverdict.1
  | recovered _ _ => exact absurd rfl hverdict.2
  | wrong _ _ =>
      have hmax' : maxFailedAttempts ≤ (row.failedAttempts + 1).toInt := by
        rw [toInt_succ (hfits rfl row rfl)]
        omega
      exact ⟨_, hstored, rfl, hmax', _, counted_lockedUntil hmax', hafter⟩

/-- A locked factor compares no code. -/
theorem unlock_le_of_totpVerdict {entry : s.CallEntry}
    (hprocess : s.processCall entry.instant entry.request entry.before =
      (entry.reply, entry.after)) {unlock : Nat}
    (hlocked : entry.before.TotpLockedUntil u unlock)
    (hverdict : Service.totpVerdict u entry = some .accepted ∨
      Service.totpVerdict u entry = some .wrong) : unlock ≤ entry.instant := by
  obtain ⟨row, hrow, -, -, instant, hinstant, hle⟩ := hlocked
  have hopened : ¬Service.LockedAt row.lockedUntil entry.instant → unlock ≤ entry.instant :=
    fun hopen => Nat.le_trans hle (Nat.le_of_not_lt fun hlt => hopen ⟨instant, hinstant, hlt⟩)
  have heffect := totpEffect_processCall (u := u) hprocess
  rw [Option.mem_def.mp hrow] at heffect
  generalize entry.after.totp u = after at heffect
  rcases hverdict with hverdict | hverdict
  · rw [hverdict] at heffect
    cases heffect with
    | accepted hopen _ => exact hopened hopen
  · rw [hverdict] at heffect
    cases heffect with
    | wrong _ hopen => exact hopened hopen

/-- The enabled row counts the wrong codes since the last correct one, and from the fifth on
the codes that are compared lie fifteen minutes apart. -/
structure Service.LocksTotp (u : Uuid) (first : TotpTally) (history : List s.CallEntry)
    (last : Db) : Prop where
  attempts : ∀ row ∈ last.totp u, row.isEnabled = true →
    row.failedAttempts.toInt = (Service.totpTally u first history).wrong
  locked : ∀ row ∈ last.totp u, row.isEnabled = true →
    (row.lockedUntil ≠ none ↔ 5 ≤ (Service.totpTally u first history).wrong)
  lockedUntil : ∀ row ∈ last.totp u, row.isEnabled = true →
    5 ≤ (Service.totpTally u first history).wrong →
      ∃ instant ∈ (Service.totpTally u first history).lastWrong,
        row.lockedUntil = some (instant + 15 * minute)
  apart : ∀ later compared between wrong earlier,
    history = later ++ compared :: (between ++ wrong :: earlier) →
    Service.totpVerdict u wrong = some .wrong →
    5 ≤ (Service.totpTally u first (wrong :: earlier)).wrong →
    (∀ entry ∈ between, Service.totpVerdict u entry ≠ some .accepted ∧
      Service.totpVerdict u entry ≠ some .recovered) →
    (Service.totpVerdict u compared = some .accepted ∨
      Service.totpVerdict u compared = some .wrong) →
    wrong.instant + 15 * minute ≤ compared.instant

/-- In every run in which the counter does not overrun, the row locks TOTP. At the start any
tally will do for a user without an enabled row. -/
theorem totp_lock_invariant (hrun : s.CallRun start history last)
    (hstart : start.RecordsTotp u first) (hcounts : ∀ entry ∈ history, ¬Service.Overruns u entry) :
    Service.LocksTotp u first history last := by
  have hrecords := recordsTotp_of_run hrun hstart hcounts
  refine ⟨fun row hrow henabled => (hrecords row hrow henabled).attempts,
    fun row hrow henabled => (hrecords row hrow henabled).locked,
    fun row hrow henabled => (hrecords row hrow henabled).lockedUntil, ?_⟩
  intro later compared between wrong earlier hsplit hwrong hmax hbetween hverdict
  obtain ⟨hbefore, -, hprocess⟩ := Serial.entry hrun hsplit
  suffices hlocked : compared.before.TotpLockedUntil u (wrong.instant + lockoutDuration) from
    unlock_le_of_totpVerdict hprocess hlocked hverdict
  apply Serial.along hbefore rfl
    (motive := fun _ state => state.TotpLockedUntil u (wrong.instant + lockoutDuration))
  · intro state hstate
    refine totpLockedUntil_of_wrong hstate hstart (fun entry hentry => hcounts entry ?_) hwrong hmax
    rw [hsplit]
    exact List.mem_append_right _ (List.mem_cons_of_mem _ (List.mem_append_right _ hentry))
  · intro segment entry hentry hprocess hlocked
    have hmem : entry ∈ history := by simp [hsplit, hentry]
    obtain ⟨newer, older, rfl⟩ := List.append_of_mem hentry
    have hordered : wrong.instant ≤ entry.instant :=
      Serial.instant_le hbefore Service.callRun_forward
        (List.append_assoc newer (entry :: older) (wrong :: earlier)) wrong (by simp)
    exact totpLockedUntil_step hprocess hlocked (Nat.add_le_add_right hordered _)
      (hbetween entry hentry) (fits_of_not_overruns (hcounts entry hmem))

end Run

namespace Sample

/-- A code that does not fit the secret of Alice. -/
def totpGuess (seconds : Nat) : Db → service.CallEntry :=
  service.entryAt (seconds * second) (.verify2FA alice.id (bytesOf "000000"))

def totpGuess1 : service.CallEntry := totpGuess 1001 dbWithTotp
def totpGuess2 : service.CallEntry := totpGuess 1002 totpGuess1.after
def totpGuess3 : service.CallEntry := totpGuess 1003 totpGuess2.after
def totpGuess4 : service.CallEntry := totpGuess 1004 totpGuess3.after
def totpGuess5 : service.CallEntry := totpGuess 1005 totpGuess4.after

theorem run_totpGuess5 : service.CallRun dbWithTotp
    [totpGuess5, totpGuess4, totpGuess3, totpGuess2, totpGuess1] totpGuess5.after := by
  have hguess1 := Service.callRun_first (s := service) dbWithTotp totpGuess1.instant
    totpGuess1.request
  have hguess2 := Service.callRun_next hguess1 totpGuess2.instant totpGuess2.request (by decide)
  have hguess3 := Service.callRun_next hguess2 totpGuess3.instant totpGuess3.request (by decide)
  have hguess4 := Service.callRun_next hguess3 totpGuess4.instant totpGuess4.request (by decide)
  exact Service.callRun_next hguess4 totpGuess5.instant totpGuess5.request (by decide)

theorem recordsTotp_dbWithTotp : dbWithTotp.RecordsTotp alice.id ⟨0, none⟩ := by
  intro row hrow _
  obtain rfl : totpRow = row := Option.some.inj ((Db.setTotp_self ..).symm.trans hrow)
  exact records_zero rfl rfl

theorem counts_totpGuess5 :
    ∀ entry ∈ [totpGuess5, totpGuess4, totpGuess3, totpGuess2, totpGuess1],
      ¬Service.Overruns alice.id entry := by
  decide +kernel

/-- The fifth wrong code locks the row of Alice. -/
theorem totp_lock_invariant_guess5 :
    Service.totpTally alice.id ⟨0, none⟩
      [totpGuess5, totpGuess4, totpGuess3, totpGuess2, totpGuess1] =
        ⟨5, some (1005 * second)⟩ ∧
    ∀ row ∈ totpGuess5.after.totp alice.id, row.isEnabled = true →
      row.lockedUntil = some (1005 * second + 15 * minute) := by
  have htally : Service.totpTally alice.id ⟨0, none⟩
      [totpGuess5, totpGuess4, totpGuess3, totpGuess2, totpGuess1] =
        ⟨5, some (1005 * second)⟩ := by
    decide +kernel
  refine ⟨htally, fun row hrow henabled => ?_⟩
  have hlock := (totp_lock_invariant run_totpGuess5 recordsTotp_dbWithTotp
    counts_totpGuess5).lockedUntil row hrow henabled
  rw [htally] at hlock
  obtain ⟨instant, hinstant, hlocked⟩ := hlock (by decide)
  obtain rfl := Option.some.inj hinstant
  exact hlocked

/-- The counter of Alice is full, and her last lock has run out. -/
def fullRow : UserTotpSecret :=
  { totpRow with failedAttempts := Int32.maxValue, lockedUntil := some (1000 * second) }

def dbFull : Db := db.setTotp alice.id (some fullRow)

def fullTally : TotpTally := ⟨2147483647, some (100 * second)⟩

theorem recordsTotp_dbFull : dbFull.RecordsTotp alice.id fullTally := by
  intro row hrow _
  obtain rfl : fullRow = row := Option.some.inj ((Db.setTotp_self ..).symm.trans hrow)
  exact ⟨by decide, by decide, fun _ => ⟨100 * second, rfl, by decide⟩⟩

def totpOverrun : service.CallEntry := totpGuess 1001 dbFull

end Sample

/-- One more wrong code leaves the counter negative, and no lock. -/
theorem not_forall_locksTotp :
    ¬∀ (s : Service) (start last : Db) (history : List s.CallEntry) (u : Uuid) (first : TotpTally),
      s.CallRun start history last → start.RecordsTotp u first →
      Service.LocksTotp u first history last := by
  intro hlocks
  have hlocked := (hlocks Sample.service Sample.dbFull Sample.totpOverrun.after
    [Sample.totpOverrun] Sample.alice.id Sample.fullTally
    (Service.callRun_first Sample.dbFull _ _) Sample.recordsTotp_dbFull).locked
    (Sample.fullRow.counted Sample.totpOverrun.instant) (by decide +kernel) rfl
  exact absurd hlocked (by decide +kernel)

end Skolva.Auth
