import Skolva.Auth.FailingCalls
import Skolva.Auth.Login

/-! # Setting up TOTP over an active factor

`Setup2FA` refuses to touch an active factor, but it learns of the factor from a
look-up whose error it drops, and it writes the whole row.
-/

namespace Skolva.Auth

open Effect

variable (s : Service) (fails : Nat → Op → Option CallError) (now : Nat) (db : Db)

/-! ## An active factor -/

/-- What the set-up must leave alone. -/
structure ActiveFactor where
  secretEncrypted : String
  isEnabled : Bool
  recoveryCodesHash : List Text
  failedAttempts : Int32
  lockedUntil : Option Nat
  deriving DecidableEq

def UserTotpSecret.factor (row : UserTotpSecret) : ActiveFactor where
  secretEncrypted := row.secretEncrypted
  isEnabled := row.isEnabled
  recoveryCodesHash := row.recoveryCodesHash
  failedAttempts := row.failedAttempts
  lockedUntil := row.lockedUntil

/-- `Setup2FA` returns an error and leaves the factor of the user as it is. -/
def Service.SparesFactor (draw : SetupDraw) (u : Uuid) : Prop :=
  let outcome := (s.setup2FA draw u).run (serveFailing s.lib fails) now (0, db)
  (∃ err, outcome.1 = .error err) ∧
    (outcome.2.2.totp u).map UserTotpSecret.factor = (db.totp u).map UserTotpSecret.factor

/-- The look-up of the row fails, and everything after it succeeds. -/
def Service.FactorUnread (draw : SetupDraw) (u : Uuid) : Prop :=
  fails 0 (.getTOTPSecret u) ≠ none ∧ fails 1 (.getUserByID u) = none ∧
    ∃ user, db.liveUser u = some user ∧
      ∃ url codes params, s.newFactor draw user.email = .ok (url, codes, params) ∧
        fails 2 (.upsertTOTPSecret u params) = none

/-- A factor that is read is left alone. -/
theorem run_setup2FA_enabled {u : Uuid} {row : UserTotpSecret} (draw : SetupDraw)
    (hrow : db.totp u = some row) (henabled : row.isEnabled = true)
    (hread : fails 0 (.getTOTPSecret u) = none) :
    ∃ err, (s.setup2FA draw u).run (serveFailing s.lib fails) now (0, db) = (.error err, 1, db) := by
  unfold Service.setup2FA Service.setup2FAAfter
  rw [run_served s.lib now 0 db hread]
  simp only [serve, hrow, one, valueOr_ok, henabled, if_true]
  exact ⟨_, rfl⟩

/-- A factor that cannot be read is overwritten, unless a later step fails. -/
theorem run_setup2FA_unread {u : Uuid} (draw : SetupDraw)
    (hread : fails 0 (.getTOTPSecret u) ≠ none) :
    (s.FactorUnread fails db draw u ∧
      ∃ result, ((s.setup2FA draw u).run (serveFailing s.lib fails) now (0, db)).1 = .ok result) ∨
    (¬s.FactorUnread fails db draw u ∧
      ∃ err count,
        (s.setup2FA draw u).run (serveFailing s.lib fails) now (0, db) = (.error err, count, db)) := by
  obtain ⟨cause, hcause⟩ := Option.ne_none_iff_exists'.mp hread
  have hdisabled : (valueOr UserTotpSecret.zero
      (.error cause : Except CallError UserTotpSecret)).isEnabled = false := rfl
  unfold Service.setup2FA
  rw [run_failed s.lib now 0 db hcause, s.setup2FAAfter_disabled draw u hdisabled,
    Program.run_bind, run_getUser_failing]
  cases hget : fails 1 (.getUserByID u) with
  | some failure => exact .inr ⟨by simp [Service.FactorUnread, hget], _, _, rfl⟩
  | none =>
      cases huser : db.liveUser u with
      | none => exact .inr ⟨by simp [Service.FactorUnread, huser], _, _, rfl⟩
      | some user =>
          cases hnew : s.newFactor draw user.email with
          | error err =>
              simp only [userFrom, User.row_email, hnew]
              exact .inr ⟨by simp [Service.FactorUnread, huser, hnew], _, _, rfl⟩
          | ok factor =>
              obtain ⟨url, codes, params⟩ := factor
              simp only [userFrom, User.row_email, hnew]
              cases hwrite : fails 2 (.upsertTOTPSecret u params) with
              | some failure =>
                  rw [run_failed s.lib now 2 db hwrite]
                  exact .inr ⟨by simp [Service.FactorUnread, huser, hnew, hwrite], _, _, rfl⟩
              | none =>
                  rw [run_served s.lib now 2 db hwrite]
                  exact .inl ⟨⟨hread, hget, user, huser, url, codes, params, hnew, hwrite⟩, _, rfl⟩

/-- `Setup2FA` spares an active factor unless it cannot read it and gets through. -/
theorem sparesFactor_iff (draw : SetupDraw) {u : Uuid} (henabled : db.TotpEnabled u) :
    s.SparesFactor fails now db draw u ↔ ¬s.FactorUnread fails db draw u := by
  obtain ⟨row, hrow, hrowEnabled⟩ := henabled
  unfold Service.SparesFactor
  by_cases hread : fails 0 (.getTOTPSecret u) = none
  · obtain ⟨err, hrun⟩ := run_setup2FA_enabled s fails now db draw hrow hrowEnabled hread
    rw [hrun]
    simp [Service.FactorUnread, hread]
  · rcases run_setup2FA_unread s fails now db draw hread with
      ⟨hunread, result, hrun⟩ | ⟨hunread, err, count, hrun⟩
    · simp [hrun, hunread]
    · simp [hrun, hunread]

theorem dbWithTotp_enabled : Sample.dbWithTotp.TotpEnabled Sample.alice.id :=
  ⟨Sample.totpRow, rfl, rfl⟩

/-- With a healthy database a second set-up is refused. -/
theorem setup2FA_refused_when_enabled :
    Sample.service.SparesFactor (fun _ _ => none) 0 Sample.dbWithTotp
      ⟨0, 0, fun _ => ⟨0, 0⟩⟩ Sample.alice.id := by
  rw [sparesFactor_iff Sample.service _ 0 _ _ dbWithTotp_enabled]
  exact fun hunread => hunread.1 rfl

/-- Alice has TOTP. Her row cannot be read, and the set-up replaces it. -/
theorem not_forall_sparesFactor :
    ¬∀ (s : Service) (fails : Nat → Op → Option CallError) (now : Nat) (db : Db)
      (draw : SetupDraw) (u : Uuid), db.TotpEnabled u → s.SparesFactor fails now db draw u := by
  intro hspares
  let fails : Nat → Op → Option CallError :=
    fun index _ => if index = 0 then some .unavailable else none
  let draw : SetupDraw := ⟨0, 0, fun _ => ⟨0, 0⟩⟩
  obtain ⟨⟨err, herr⟩, -⟩ :=
    hspares Sample.service fails 0 Sample.dbWithTotp draw Sample.alice.id dbWithTotp_enabled
  rcases run_setup2FA_unread Sample.service fails 0 Sample.dbWithTotp draw (u := Sample.alice.id)
      (by decide) with ⟨-, result, hrun⟩ | ⟨hread, -⟩
  · rw [hrun] at herr
    cases herr
  · exact hread ⟨by decide, rfl, Sample.alice, rfl, _, _, _, rfl, rfl⟩

end Skolva.Auth
