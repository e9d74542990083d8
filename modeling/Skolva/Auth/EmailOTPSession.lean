import Skolva.Auth.Calls
import Skolva.Effect.ClockedPool

/-! # What a verification of an email code does to the keys

`VerifyEmail2FALogin` reads the flag, the lock, the expiry and the hash, one call after
the other. Then it deletes four keys, or it reads and writes the counter and may set a
lock.
-/

namespace Skolva.Auth

open Effect Time

/-- Where a request has come to, with what it has read. -/
inductive OTPStage where
  | enabled
  | locked
  | expiry (lock : Option Text)
  | comparing (lock : Option Text) (expires : Text)
  | deleting (keys : List MetaKey)
  | counting
  | writing (attempts : Nat)
  | locking
  | refused

/-- The keys that `verifyEmailOTP` deletes after the correct code, in their order. -/
def emailOTPKeys : List MetaKey :=
  [.email2faOTPHash, .email2faExpires, .email2faAttempts, .email2faLocked]

/-- The request has compared the correct code. -/
def OTPStage.Accepting : OTPStage → Prop
  | .deleting _ => True
  | _ => False

/-- The request has compared a wrong code, and has yet to count it or to set the lock. -/
def OTPStage.Counting : OTPStage → Prop
  | .counting | .writing _ | .locking => True
  | _ => False

variable (s : Service)

/-- How a call moves a request that checks this code. -/
def OTPStage.after (code : Bytes) : OTPStage → (op : Op) → op.Resp → OTPStage
  | .enabled, .metaGet _ _, .ok value => if value = some textTrue then .locked else .refused
  | .locked, .metaGet _ _, resp => .expiry (valueOr none resp)
  | .expiry lock, .metaGet _ _, .ok (some expires) => .comparing lock expires
  | .comparing _ _, .metaGet _ _, .ok (some hash) =>
      if s.lib.bcryptCompare hash code then .deleting emailOTPKeys else .counting
  | .deleting (_ :: keys), _, _ => .deleting keys
  | .counting, .metaGet _ _, resp => .writing (Service.storedAttempts (valueOr none resp) + 1)
  | .writing attempts, _, _ => if maxFailedAttempts ≤ attempts then .locking else .refused
  | _, _, _ => .refused

/-- The call that comes next. A hash is read only if the lock that was read has run out
before the code expires. -/
def OTPStage.Allows (u : Uuid) (opening : Nat) (op : Op) : OTPStage → Prop
  | .enabled => op = .metaGet u .email2faEnabled
  | .locked => op = .metaGet u .email2faLocked
  | .expiry _ => op = .metaGet u .email2faExpires
  | .comparing lock expires => op = .metaGet u .email2faOTPHash ∧
      ∃ instant ∈ parseRFC3339 expires, ∀ unlock ∈ lock.bind parseRFC3339, unlock ≤ instant
  | .deleting [] => False
  | .deleting (key :: _) => op = .metaDelete u key
  | .counting => op = .metaGet u .email2faAttempts
  | .writing attempts => op = .metaSet u .email2faAttempts (itoa attempts)
  | .locking => ∃ now, opening ≤ now ∧
      op = .metaSet u .email2faLocked (formatRFC3339 (now + lockoutDuration))
  | .refused => False

/-- How a request ends: with success once all keys are deleted, and with an error before it
has compared its code or after it has counted a wrong one. -/
def OTPStage.Ends {α : Type} (result : Except Err α) : OTPStage → Prop
  | .deleting [] => result.isOk = true
  | .deleting (_ :: _) | .counting | .writing _ | .locking => False
  | _ => result.isOk = false

/-- A request that checks this code from this instant on. -/
def Service.otpSession (u : Uuid) (code : Bytes) (opening : Nat) : Session Op Op.Resp OTPStage where
  first := .enabled
  allowed stage op := stage.Allows u opening op
  after := OTPStage.after s code

/-! ## The program -/

section Program

variable {s} {u : Uuid} {code : Bytes} {opening : Nat} {stage : OTPStage} {instant : Nat}
  {α : Type} {final : OTPStage → Nat → α → Prop}

/-- A lock that does not hold has run out by the time the program goes on. -/
theorem followsFrom_isBefore {text : Option Text} {rest : Bool → Prog α}
    (hpassed : ∀ later, instant ≤ later → (∀ unlock ∈ text.bind parseRFC3339, unlock ≤ later) →
      (rest false).FollowsFrom (s.otpSession u code opening) final stage later)
    (hbefore : ∀ later, instant ≤ later →
      (rest true).FollowsFrom (s.otpSession u code opening) final stage later) :
    (Service.isBefore text >>= rest).FollowsFrom (s.otpSession u code opening) final stage
      instant := by
  unfold Service.isBefore
  cases hparse : text.bind parseRFC3339 with
  | none => exact hpassed instant le_rfl (by simp [hparse])
  | some unlock =>
      rw [bind_assoc]
      refine Program.followsFrom_readClock fun now hnow => ?_
      by_cases hlocked : now < unlock
      · simpa [hlocked] using hbefore now hnow
      · simpa [hlocked] using hpassed now hnow (by simpa [hparse] using hlocked)

/-- A code that has not expired is live at the time the program goes on. -/
theorem followsFrom_hasExpired {text : Text} {rest : Bool → Prog α}
    (hlive : ∀ later, instant ≤ later → (∃ expiry ∈ parseRFC3339 text, later ≤ expiry) →
      (rest false).FollowsFrom (s.otpSession u code opening) final stage later)
    (hexpired : ∀ later, instant ≤ later →
      (rest true).FollowsFrom (s.otpSession u code opening) final stage later) :
    (Service.hasExpired text >>= rest).FollowsFrom (s.otpSession u code opening) final stage
      instant := by
  unfold Service.hasExpired
  cases hparse : parseRFC3339 text with
  | none => exact hexpired instant le_rfl
  | some expiry =>
      rw [bind_assoc]
      refine Program.followsFrom_readClock fun now hnow => ?_
      by_cases hover : expiry < now
      · simpa [hover] using hexpired now hnow
      · simpa [hover] using hlive now hnow ⟨expiry, hparse, Nat.le_of_not_lt hover⟩

theorem followsFrom_acceptEmailOTP :
    (Service.acceptEmailOTP u).FollowsFrom (s.otpSession u code opening)
      (fun stage _ result => stage.Ends result) (.deleting emailOTPKeys) instant := by
  unfold Service.acceptEmailOTP
  refine Program.followsFrom_perform rfl fun _ _ _ => ?_
  refine Program.followsFrom_perform rfl fun _ _ _ => ?_
  refine Program.followsFrom_perform rfl fun _ _ _ => ?_
  exact Program.followsFrom_perform rfl fun _ _ _ => rfl

theorem followsFrom_rejectEmailOTP (hopening : opening ≤ instant) :
    (Service.rejectEmailOTP u).FollowsFrom (s.otpSession u code opening)
      (fun stage _ result => stage.Ends result) .counting instant := by
  unfold Service.rejectEmailOTP
  refine Program.followsFrom_perform rfl fun stored read hread => ?_
  refine Program.followsFrom_perform rfl fun _ written hwritten => ?_
  by_cases hmax : maxFailedAttempts ≤ Service.storedAttempts (valueOr none stored) + 1
  · rw [if_pos hmax]
    change Program.FollowsFrom _ _ _ (if _ then _ else _) _
    rw [if_pos hmax]
    refine Program.followsFrom_readClock fun now hnow => ?_
    refine Program.followsFrom_perform ⟨now, ?_, rfl⟩ fun _ _ _ => rfl
    exact hopening.trans (hread.trans (hwritten.trans hnow))
  · rw [if_neg hmax]
    change OTPStage.Ends _ (if _ then _ else _)
    rw [if_neg hmax]
    rfl

theorem followsFrom_verifyEmailOTP (hopening : opening ≤ instant) :
    (s.verifyEmailOTP u code).FollowsFrom (s.otpSession u code opening)
      (fun stage _ result => stage.Ends result) .locked instant := by
  unfold Service.verifyEmailOTP Service.activeEmailOTP
  rw [bind_assoc]
  refine Program.followsFrom_perform rfl fun lock read hread => ?_
  rw [bind_assoc]
  refine followsFrom_isBefore (fun passed hpassed hunlock => ?_) fun _ _ => rfl
  rw [if_neg Bool.false_ne_true, bind_assoc]
  refine Program.followsFrom_perform rfl fun expires readExpires hreadExpires => ?_
  cases expires with
  | error cause => rfl
  | ok value =>
      cases value with
      | none => rfl
      | some text =>
          dsimp only
          rw [bind_assoc]
          refine followsFrom_hasExpired (fun live hlive hexpiry => ?_) fun _ _ => rfl
          obtain ⟨expiry, hparse, hle⟩ := hexpiry
          have hallowed : ∀ unlock ∈ (valueOr none lock).bind parseRFC3339, unlock ≤ expiry :=
            fun unlock hmem => (hunlock unlock hmem).trans
              (hreadExpires.trans (hlive.trans hle))
          rw [if_neg Bool.false_ne_true, bind_assoc]
          refine Program.followsFrom_perform ⟨rfl, expiry, hparse, hallowed⟩
            fun stored compared hcompared => ?_
          cases stored with
          | error cause => rfl
          | ok found =>
              cases found with
              | none => rfl
              | some hash =>
                  change Program.FollowsFrom _ _
                    (if s.lib.bcryptCompare hash code then Service.acceptEmailOTP u
                      else Service.rejectEmailOTP u)
                    (if s.lib.bcryptCompare hash code then OTPStage.deleting emailOTPKeys
                      else .counting) _
                  split
                  · exact followsFrom_acceptEmailOTP
                  · apply followsFrom_rejectEmailOTP
                    omega

theorem followsFrom_verifyEmail2FALogin (hopening : opening ≤ instant) :
    (s.verifyEmail2FALogin u code).FollowsFrom (s.otpSession u code opening)
      (fun stage _ result => stage.Ends result) .enabled instant := by
  unfold Service.verifyEmail2FALogin Service.isEmail2FAEnabled
  rw [bind_assoc]
  refine Program.followsFrom_perform rfl fun value read hread => ?_
  cases value with
  | error cause => rfl
  | ok value =>
      change Program.FollowsFrom _ _ _
        (if value = some textTrue then OTPStage.locked else .refused) _
      by_cases hon : value = some textTrue
      · rw [if_pos hon]
        simp only [hon, decide_true]
        exact followsFrom_verifyEmailOTP (hopening.trans hread)
      · rw [if_neg hon]
        simp only [hon, decide_false]
        rfl

end Program

end Skolva.Auth
