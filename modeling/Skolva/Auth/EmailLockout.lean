import Skolva.Auth.Calls
import Skolva.Auth.Login

/-! # The lock of codes by email

Calls of the service come one after the other. After five wrong codes in a row the
factor is locked. A new code lifts the lock, so the lock lasts only as long as no
code is issued.
-/

namespace Skolva.Auth

open Effect Time

variable (s : Service)

/-! ## What happens to the code of a user -/

/-- The result of the comparison in `verifyEmailOTP`, if it comes to one. -/
def Service.emailComparison (now : Nat) (db : Db) (u : Uuid) (code : Bytes) : Option Bool :=
  match ((Service.activeEmailOTP u).run (serve s.lib) now db).1 with
  | .ok hash => some (s.lib.bcryptCompare hash code)
  | .error _ => none

/-- The result of the comparison a call makes for the user, if it makes one. -/
def Service.emailVerdict (now : Nat) (db : Db) (u : Uuid) : ServiceCall → Option Bool
  | .confirmEmail2FA userID code =>
      if userID = u ∧ db.usersMeta u .email2faEnabled ≠ some textTrue then
        s.emailComparison now db u code
      else none
  | .verifyEmail2FALogin userID code =>
      if userID = u ∧ db.usersMeta u .email2faEnabled = some textTrue then
        s.emailComparison now db u code
      else none
  | _ => none

/-- The call issues a new code to the user. -/
def Service.IssuesEmailOTP (db : Db) (u : Uuid) : ServiceCall → Prop
  | .setupEmail2FA _ userID =>
      userID = u ∧ ¬db.EmailEnabled u ∧ (db.liveUser u).isSome = true
  | .sendEmail2FALoginOTP _ userID =>
      userID = u ∧ db.EmailEnabled u ∧ (db.liveUser u).isSome = true
  | .login _ email password =>
      s.PasswordChecked db email password u ∧ db.EmailEnabled u ∧ (db.liveUser u).isSome = true
  | _ => False

def ServiceCall.DisablesEmail2FA (u : Uuid) : ServiceCall → Prop
  | .disableEmail2FA userID => userID = u
  | _ => False

variable {s}

def Service.verdict (u : Uuid) (entry : s.CallEntry) : Option Bool :=
  s.emailVerdict entry.instant entry.before u entry.request

def Service.Issues (u : Uuid) (entry : s.CallEntry) : Prop :=
  s.IssuesEmailOTP entry.before u entry.request

/-- The wrong codes evaluated for the user. -/
def Service.wrongCodes (u : Uuid) (entries : List s.CallEntry) : Nat :=
  entries.countP (fun entry => s.verdict u entry = some false)

/-- Neither is a correct code evaluated for the user nor a new one issued. -/
def Service.Guesses (u : Uuid) (entries : List s.CallEntry) : Prop :=
  ∀ entry ∈ entries, s.verdict u entry ≠ some true ∧ ¬s.Issues u entry

/-! ## One call -/

section Step

variable (now : Nat) (db : Db) {u : Uuid}

theorem run_verifyEmailOTP_state (code : Bytes) :
    ((s.verifyEmailOTP u code).run (serve s.lib) now db).2 =
      match s.emailComparison now db u code with
      | none => db
      | some true => Service.withoutEmailOTP db u
      | some false => Service.countWrongOTP db now u := by
  obtain ⟨active, hrun, -⟩ := Service.run_activeEmailOTP s now db u
  unfold Service.verifyEmailOTP Service.emailComparison
  rw [Program.run_bind, hrun]
  cases active with
  | error err => rfl
  | ok hash =>
      dsimp only
      cases hcompare : s.lib.bcryptCompare hash code with
      | true =>
          rw [if_pos rfl, s.run_acceptEmailOTP]
      | false =>
          rw [if_neg Bool.false_ne_true, s.run_rejectEmailOTP]

/-- `ConfirmEmail2FA` does to the code what `verifyEmailOTP` does. -/
theorem run_confirmEmail2FA_key (code : Bytes) {key : MetaKey} (hkey : key ≠ .email2faEnabled) :
    ((s.confirmEmail2FA u code).run (serve s.lib) now db).2.usersMeta u key =
      if db.usersMeta u .email2faEnabled ≠ some textTrue then
        ((s.verifyEmailOTP u code).run (serve s.lib) now db).2.usersMeta u key
      else db.usersMeta u key := by
  obtain ⟨enabled, hrun, henabled⟩ := s.run_isEmail2FAEnabled now db u
  unfold Db.EmailEnabled at henabled
  unfold Service.confirmEmail2FA
  rw [Program.run_bind, hrun]
  cases enabled with
  | true =>
      rw [if_neg (not_not_intro (henabled.mp rfl))]
      rfl
  | false =>
      rw [if_pos (mt henabled.mpr Bool.false_ne_true)]
      dsimp only
      rw [Program.run_bind]
      generalize (s.verifyEmailOTP u code).run (serve s.lib) now db = verified
      obtain ⟨verdict, state⟩ := verified
      cases verdict with
      | error err => rfl
      | ok _ => exact (state.setMeta_apply ..).trans (if_neg fun hwritten => hkey hwritten.2)

/-- A comparison uses up the code or counts one more wrong code. -/
theorem processCall_key_of_verdict {request : ServiceCall} {verdict : Bool}
    (hverdict : s.emailVerdict now db u request = some verdict) {key : MetaKey}
    (hkey : key ≠ .email2faEnabled) :
    (s.processCall now request db).2.usersMeta u key =
      (if verdict then Service.withoutEmailOTP db u
        else Service.countWrongOTP db now u).usersMeta u key := by
  have hstate : ∀ code, s.emailComparison now db u code = some verdict →
      ((s.verifyEmailOTP u code).run (serve s.lib) now db).2 =
        if verdict then Service.withoutEmailOTP db u else Service.countWrongOTP db now u := by
    intro code hcompare
    rw [run_verifyEmailOTP_state, hcompare]
    cases verdict <;> rfl
  unfold Service.processCall
  cases request with
  | confirmEmail2FA userID code =>
      simp only [Service.emailVerdict] at hverdict
      split at hverdict
      next hreached =>
          obtain ⟨rfl, hdisabled⟩ := hreached
          rw [Service.call, Service.run_answering, run_confirmEmail2FA_key now db code hkey,
            if_pos hdisabled, hstate code hverdict]
      next => exact nomatch hverdict
  | verifyEmail2FALogin userID code =>
      simp only [Service.emailVerdict] at hverdict
      split at hverdict
      next hreached =>
          obtain ⟨rfl, henabled⟩ := hreached
          rw [Service.call, Service.run_answering, Service.run_verifyEmail2FALogin,
            if_pos henabled, hstate code hverdict]
      next => exact nomatch hverdict
  | _ => exact nomatch hverdict

theorem processCall_key_of_disable {request : ServiceCall} (hdisable : request.DisablesEmail2FA u)
    {key : MetaKey} (hkey : key.IsEmail2FA) :
    (s.processCall now request db).2.usersMeta u key = none := by
  cases request with
  | disableEmail2FA userID =>
      obtain rfl : userID = u := hdisable
      change (((((db.setMeta userID .email2faEnabled none).setMeta userID .email2faOTPHash
        none).setMeta userID .email2faExpires none).setMeta userID .email2faAttempts none).setMeta
        userID .email2faLocked none).usersMeta userID key = none
      cases key with
      | email2faEnabled | email2faOTPHash | email2faExpires | email2faAttempts | email2faLocked =>
          simp [Db.setMeta_apply]
      | _ => exact hkey.elim
  | _ => exact hdisable.elim

theorem run_setupEmail2FA_quiet {draw : OTPDraw}
    (hquiet : ¬(¬db.EmailEnabled u ∧ (db.liveUser u).isSome = true)) :
    ((s.setupEmail2FA draw u).run (serve s.lib) now db).2 = db := by
  obtain ⟨enabled, hrun, henabled⟩ := s.run_isEmail2FAEnabled now db u
  unfold Service.setupEmail2FA
  rw [Program.run_bind, hrun]
  cases enabled with
  | true => rfl
  | false =>
      have hmissing : db.liveUser u = none := by
        rw [← henabled] at hquiet
        simpa using hquiet
      dsimp only
      rw [Program.run_bind, Service.run_getUser, hmissing]
      rfl

theorem run_sendEmail2FALoginOTP_quiet {draw : OTPDraw}
    (hquiet : ¬(db.EmailEnabled u ∧ (db.liveUser u).isSome = true)) :
    ((s.sendEmail2FALoginOTP draw u).run (serve s.lib) now db).2 = db := by
  obtain ⟨enabled, hrun, henabled⟩ := s.run_isEmail2FAEnabled now db u
  unfold Service.sendEmail2FALoginOTP
  rw [Program.run_bind, hrun]
  cases enabled with
  | false => rfl
  | true =>
      have hmissing : db.liveUser u = none := by
        rw [← henabled] at hquiet
        simpa using hquiet
      dsimp only
      rw [Program.run_bind, Service.run_getUser, hmissing]
      rfl

theorem run_loginPending_state (draw : LoginDraw) (row : UserByEmailRow) (emailEnabled : Bool) :
    ((s.loginPending draw row emailEnabled).run (serve s.lib) now db).2 =
      if emailEnabled then
        ((s.sendEmail2FALoginOTP draw.otp row.id).run (serve s.lib) now db).2
      else db := by
  unfold Service.loginPending TokenManager.issuePending2FA
  rw [Program.run_bind, TokenManager.run_issue]
  cases emailEnabled with
  | true => exact congrArg Prod.snd (Program.run_bind ..)
  | false => rfl

/-- `Login` touches the code of a user only by sending a new one. -/
theorem run_login_key_of_quiet {draw : LoginDraw} {email : String} {password : Bytes}
    (hissue : ¬s.IssuesEmailOTP db u (.login draw email password)) {key : MetaKey} :
    ((s.login draw email password).run (serve s.lib) now db).2.usersMeta u key =
      db.usersMeta u key := by
  rcases run_login_cases s now db draw email password with ⟨-, err, herr⟩ |
    ⟨user, huser, hactive, hpassword, ⟨-, emailEnabled, hemail, hpending⟩ | ⟨-, hgranted⟩⟩
  · rw [herr]
  · rw [hpending, run_loginPending_state]
    cases emailEnabled with
    | false => rfl
    | true =>
        rw [if_pos rfl]
        by_cases howner : user.id = u
        · have hchecked : s.PasswordChecked db email password u := ⟨user, huser, howner, hactive, hpassword⟩
          have hquiet : ¬(db.EmailEnabled u ∧ (db.liveUser u).isSome = true) :=
            fun hsend => hissue ⟨hchecked, hsend⟩
          rw [User.byEmailRow_id, howner, run_sendEmail2FALoginOTP_quiet now db hquiet]
        · have hother : ∀ written, ¬(u = user.id ∧ key = written) :=
            fun written hwrite => howner hwrite.1.symm
          have huses : (s.sendEmail2FALoginOTP draw.otp user.id).Uses (Op.LeavesMeta u key) :=
            s.uses_sendEmail2FALoginOTP (fun _ => trivial) (fun written _ _ => hother written)
              (fun written _ => hother written) (fun _ => trivial) trivial draw.otp
          exact Program.run_preserves (serve s.lib) now huses
            (motive := fun store => store.usersMeta u key = db.usersMeta u key)
            (fun _ store hop hstore => (serve_meta s.lib now store hop).trans hstore) rfl
  · obtain ⟨roles, perms, haccess⟩ := run_loginAccess s now db draw.jti user.byEmailRow
    rw [hgranted, haccess]

theorem processCall_key_of_other {request : ServiceCall} (hother : ¬request.TouchesEmail2FA u)
    {key : MetaKey} (hreset : ¬key.IsReset) :
    (s.processCall now request db).2.usersMeta u key = db.usersMeta u key :=
  Service.processCall_meta (fun htouch => absurd htouch hother) (fun _ => hreset) now db

/-- What is neither a comparison nor a new code nor a switch leaves the code alone. -/
theorem processCall_key_of_quiet {request : ServiceCall}
    (hverdict : s.emailVerdict now db u request = none) (hissue : ¬s.IssuesEmailOTP db u request)
    (hdisable : ¬request.DisablesEmail2FA u) {key : MetaKey} (hkey : key ≠ .email2faEnabled)
    (hreset : ¬key.IsReset) :
    (s.processCall now request db).2.usersMeta u key = db.usersMeta u key := by
  have hstate : ∀ code, s.emailComparison now db u code = none →
      ((s.verifyEmailOTP u code).run (serve s.lib) now db).2 = db := by
    intro code hcompare
    rw [run_verifyEmailOTP_state, hcompare]
  cases request with
  | login draw email password =>
      rw [Service.processCall, Service.call, Service.run_answering]
      exact run_login_key_of_quiet now db hissue
  | setupEmail2FA draw userID =>
      by_cases howner : userID = u
      · subst howner
        rw [Service.processCall, Service.call, Service.run_answering,
          run_setupEmail2FA_quiet now db fun hsetup => hissue ⟨rfl, hsetup⟩]
      · apply processCall_key_of_other now db _ hreset
        exact Ne.symm howner
  | sendEmail2FALoginOTP draw userID =>
      by_cases howner : userID = u
      · subst howner
        rw [Service.processCall, Service.call, Service.run_answering,
          run_sendEmail2FALoginOTP_quiet now db fun hsend => hissue ⟨rfl, hsend⟩]
      · apply processCall_key_of_other now db _ hreset
        exact Ne.symm howner
  | confirmEmail2FA userID code =>
      by_cases howner : userID = u
      · subst howner
        rw [Service.processCall, Service.call, Service.run_answering,
          run_confirmEmail2FA_key now db code hkey]
        by_cases hdisabled : db.usersMeta userID .email2faEnabled ≠ some textTrue
        · rw [Service.emailVerdict, if_pos ⟨rfl, hdisabled⟩] at hverdict
          rw [if_pos hdisabled, hstate code hverdict]
        · rw [if_neg hdisabled]
      · apply processCall_key_of_other now db _ hreset
        exact Ne.symm howner
  | verifyEmail2FALogin userID code =>
      by_cases howner : userID = u
      · subst howner
        rw [Service.processCall, Service.call, Service.run_answering,
          Service.run_verifyEmail2FALogin]
        by_cases henabled : db.usersMeta userID .email2faEnabled = some textTrue
        · rw [Service.emailVerdict, if_pos ⟨rfl, henabled⟩] at hverdict
          rw [if_pos henabled, hstate code hverdict]
        · rw [if_neg henabled]
      · apply processCall_key_of_other now db _ hreset
        exact Ne.symm howner
  | disableEmail2FA userID =>
      apply processCall_key_of_other now db _ hreset
      exact Ne.symm hdisable
  | _ =>
      apply processCall_key_of_other now db _ hreset
      exact not_false

theorem live_of_verdict {request : ServiceCall} {verdict : Bool}
    (hverdict : s.emailVerdict now db u request = some verdict) :
    ∃ hash, Service.LiveEmailOTP db now u hash := by
  have hlive : ∀ code, s.emailComparison now db u code = some verdict →
      ∃ hash, Service.LiveEmailOTP db now u hash := by
    intro code hcompare
    obtain ⟨active, hrun, hactive⟩ := Service.run_activeEmailOTP s now db u
    unfold Service.emailComparison at hcompare
    rw [hrun] at hcompare
    cases active with
    | error err => exact nomatch hcompare
    | ok hash => exact ⟨hash, (hactive hash).mp rfl⟩
  cases request with
  | confirmEmail2FA userID code => exact hlive code (Option.ite_none_right_eq_some.mp hverdict).2
  | verifyEmail2FALogin userID code =>
      exact hlive code (Option.ite_none_right_eq_some.mp hverdict).2
  | _ => exact nomatch hverdict

theorem not_issues_of_verdict {request : ServiceCall} {verdict : Bool}
    (hverdict : s.emailVerdict now db u request = some verdict) :
    ¬s.IssuesEmailOTP db u request := by
  cases request with
  | confirmEmail2FA userID code => exact id
  | verifyEmail2FALogin userID code => exact id
  | _ => exact nomatch hverdict

end Step

/-! ## Counting and locking -/

/-- Unless there is no code, the counter has reached this number. -/
def Db.CountsWrong (db : Db) (u : Uuid) (wrong : Nat) : Prop :=
  db.usersMeta u .email2faOTPHash = none ∨ wrong ≤ Service.emailAttempts db u

/-- Unless there is no code, the factor is locked until this instant at least. -/
def Db.LockedUntil (db : Db) (u : Uuid) (unlock : Nat) : Prop :=
  db.usersMeta u .email2faOTPHash = none ∨
    ∃ instant ∈ (db.usersMeta u .email2faLocked).bind parseRFC3339, unlock ≤ instant

section Entry

variable {u : Uuid} {entry : s.CallEntry}
  (hprocess : s.processCall entry.instant entry.request entry.before = (entry.reply, entry.after))

theorem verdict_eq_none_of_locked {unlock : Nat} (hlocked : entry.before.LockedUntil u unlock)
    (hbefore : entry.instant < unlock) : s.verdict u entry = none := by
  cases hverdict : s.verdict u entry with
  | none => rfl
  | some verdict =>
      obtain ⟨hash, hunlocked, -, hhash⟩ := live_of_verdict entry.instant entry.before hverdict
      rcases hlocked with hnone | ⟨instant, hinstant, hle⟩
      · exact nomatch hhash.symm.trans hnone
      · exact absurd ⟨instant, hinstant, Nat.lt_of_lt_of_le hbefore hle⟩ hunlocked

include hprocess

/-- Without a comparison or a new code, the code is gone or everything stays. -/
theorem after_eq_of_quiet (hverdict : s.verdict u entry = none) (hissue : ¬s.Issues u entry) :
    entry.after.usersMeta u .email2faOTPHash = none ∨
      ∀ key, key ≠ .email2faEnabled → ¬key.IsReset →
        entry.after.usersMeta u key = entry.before.usersMeta u key := by
  have hafter : (s.processCall entry.instant entry.request entry.before).2 = entry.after := by
    rw [hprocess]
  rw [← hafter]
  by_cases hdisable : entry.request.DisablesEmail2FA u
  · exact .inl (processCall_key_of_disable entry.instant entry.before hdisable trivial)
  · exact .inr fun key hkey hreset =>
      processCall_key_of_quiet entry.instant entry.before hverdict hissue hdisable hkey hreset

/-- A wrong code sets the counter, and from the fifth on the lock. -/
theorem after_wrong (hverdict : s.verdict u entry = some false) :
    Service.emailAttempts entry.after u = Service.emailAttempts entry.before u + 1 ∧
      (maxFailedAttempts ≤ Service.emailAttempts entry.after u →
        entry.after.usersMeta u .email2faLocked =
          some (formatRFC3339 (entry.instant + lockoutDuration))) := by
  have hkey : ∀ key, key ≠ .email2faEnabled → entry.after.usersMeta u key =
      (Service.countWrongOTP entry.before entry.instant u).usersMeta u key := by
    intro key hkey
    have hstep := processCall_key_of_verdict entry.instant entry.before hverdict hkey
    rw [hprocess] at hstep
    exact hstep
  have hattempts : entry.after.usersMeta u .email2faAttempts =
      some (itoa (Service.emailAttempts entry.before u + 1)) := by
    rw [hkey .email2faAttempts (by decide)]
    unfold Service.countWrongOTP
    dsimp only
    split <;> simp [Db.setMeta_apply]
  have hcount : Service.emailAttempts entry.after u = Service.emailAttempts entry.before u + 1 := by
    conv_lhs => rw [Service.emailAttempts, hattempts]
    rfl
  refine ⟨hcount, fun hmax => ?_⟩
  rw [hcount] at hmax
  rw [hkey .email2faLocked (by decide)]
  unfold Service.countWrongOTP
  dsimp only
  rw [if_pos hmax]
  exact Db.setMeta_self ..

theorem countsWrong_step {wrong : Nat} (hverdict : s.verdict u entry ≠ some true)
    (hissue : ¬s.Issues u entry) (hcount : entry.before.CountsWrong u wrong) :
    entry.after.CountsWrong u (wrong + if s.verdict u entry = some false then 1 else 0) := by
  cases hcase : s.verdict u entry with
  | none =>
      rw [if_neg nofun, Nat.add_zero]
      rcases after_eq_of_quiet hprocess hcase hissue with hnone | hsame
      · exact .inl hnone
      · unfold Db.CountsWrong Service.emailAttempts
        rw [hsame .email2faOTPHash (by decide) id, hsame .email2faAttempts (by decide) id]
        exact hcount
  | some verdict =>
      cases verdict with
      | true => exact absurd hcase hverdict
      | false =>
          obtain ⟨hash, -, -, hhash⟩ := live_of_verdict entry.instant entry.before hcase
          rw [if_pos rfl]
          rcases hcount with hnone | hle
          · exact nomatch hhash.symm.trans hnone
          · refine .inr ?_
            rw [(after_wrong hprocess hcase).1]
            exact Nat.succ_le_succ hle

/-- The wrong code that brings the counter to five locks the factor. -/
theorem lockedUntil_of_wrong {wrong : Nat} (hverdict : s.verdict u entry = some false)
    (hcount : entry.after.CountsWrong u wrong) (hmax : maxFailedAttempts ≤ wrong) :
    entry.after.LockedUntil u (truncate (entry.instant + lockoutDuration)) := by
  rcases hcount with hnone | hle
  · exact .inl hnone
  · refine .inr ⟨_, ?_, Nat.le_refl _⟩
    rw [(after_wrong hprocess hverdict).2 (Nat.le_trans hmax hle)]
    rfl

/-- The lock lasts as long as no code is issued. -/
theorem lockedUntil_step {unlock : Nat} (hissue : ¬s.Issues u entry)
    (hlocked : entry.before.LockedUntil u unlock) (hbefore : entry.instant < unlock) :
    entry.after.LockedUntil u unlock := by
  have hverdict := verdict_eq_none_of_locked hlocked hbefore
  rcases after_eq_of_quiet hprocess hverdict hissue with hnone | hsame
  · exact .inl hnone
  · unfold Db.LockedUntil
    rw [hsame .email2faOTPHash (by decide) id, hsame .email2faLocked (by decide) id]
    exact hlocked

end Entry

/-! ## Runs -/

section Run

variable {start last : Db} {history : List s.CallEntry} {u : Uuid}

theorem wrongCodes_cons (entry : s.CallEntry) (entries : List s.CallEntry) :
    Service.wrongCodes u (entry :: entries) =
      Service.wrongCodes u entries + if s.verdict u entry = some false then 1 else 0 := by
  simp [Service.wrongCodes, List.countP_cons]

/-- While codes are guessed the counter keeps up with the wrong ones. -/
theorem countsWrong_along {later earlier : List s.CallEntry}
    (hrun : s.CallRun start (later ++ earlier) last) (hguess : Service.Guesses u later) :
    last.CountsWrong u (Service.wrongCodes u later) := by
  apply Serial.along hrun rfl (motive := fun segment state =>
    state.CountsWrong u (Service.wrongCodes u segment))
  · intro state _
    exact .inr (Nat.zero_le _)
  · intro segment entry hentry hprocess hcount
    rw [wrongCodes_cons]
    exact countsWrong_step hprocess (hguess entry hentry).1 (hguess entry hentry).2 hcount

/-- The fifth wrong code in a row locks the factor. -/
theorem lockedUntil_of_streak {fifth : s.CallEntry} {streak earlier : List s.CallEntry}
    (hrun : s.CallRun start (fifth :: (streak ++ earlier)) last)
    (hwrong : s.verdict u fifth = some false)
    (hmax : maxFailedAttempts ≤ Service.wrongCodes u (fifth :: streak))
    (hguess : Service.Guesses u streak) :
    last.LockedUntil u (truncate (fifth.instant + lockoutDuration)) := by
  have hall : Service.Guesses u (fifth :: streak) := by
    intro entry hentry
    rcases List.mem_cons.mp hentry with rfl | hentry
    · exact ⟨by rw [hwrong]; decide, not_issues_of_verdict _ _ hwrong⟩
    · exact hguess entry hentry
  have hcount : last.CountsWrong u (Service.wrongCodes u (fifth :: streak)) :=
    countsWrong_along hrun hall
  cases hrun with
  | cons now request hhistory hadmissible => exact lockedUntil_of_wrong rfl hwrong hcount hmax

/-- Once locked, the factor stays locked while no code is issued. -/
theorem lockedUntil_along {later earlier : List s.CallEntry} {unlock : Nat}
    (hrun : s.CallRun start (later ++ earlier) last)
    (hlocked : ∀ state, s.CallRun start earlier state → state.LockedUntil u unlock)
    (hlater : ∀ entry ∈ later, ¬s.Issues u entry ∧ entry.instant < unlock) :
    last.LockedUntil u unlock := by
  apply Serial.along hrun rfl (motive := fun _ state => state.LockedUntil u unlock)
  · exact hlocked
  · intro segment entry hentry hprocess hbefore
    exact lockedUntil_step hprocess (hlater entry hentry).1 hbefore (hlater entry hentry).2

/-- After the fifth wrong code no code is compared until the lock has run out. -/
theorem unlock_le_of_compared {later streak earlier : List s.CallEntry} {fifth : s.CallEntry}
    (hrun : s.CallRun start (later ++ fifth :: (streak ++ earlier)) last)
    (hwrong : s.verdict u fifth = some false)
    (hmax : maxFailedAttempts ≤ Service.wrongCodes u (fifth :: streak))
    (hguess : Service.Guesses u streak)
    (hissue : ∀ entry ∈ later, s.Issues u entry →
      truncate (fifth.instant + lockoutDuration) ≤ entry.instant)
    {compared : s.CallEntry} (hcompared : compared ∈ later)
    (hverdict : s.verdict u compared ≠ none) :
    truncate (fifth.instant + lockoutDuration) ≤ compared.instant := by
  -- Before the lock runs out every state on the way is locked, where nothing is compared.
  by_contra hearly
  obtain ⟨newer, older, rfl⟩ := List.append_of_mem hcompared
  have hsplit : newer ++ compared :: older ++ fifth :: (streak ++ earlier) =
      newer ++ compared :: (older ++ fifth :: (streak ++ earlier)) := by
    simp
  obtain ⟨hbefore, -, -⟩ := Serial.entry hrun hsplit
  have hinstants := Serial.instant_le hrun Service.callRun_forward hsplit
  have hlocked : compared.before.LockedUntil u (truncate (fifth.instant + lockoutDuration)) := by
    apply lockedUntil_along hbefore
    · exact fun state hstate => lockedUntil_of_streak hstate hwrong hmax hguess
    · intro entry hentry
      have hle : entry.instant ≤ compared.instant :=
        hinstants entry (List.mem_append_left _ hentry)
      have hlt : entry.instant < truncate (fifth.instant + lockoutDuration) :=
        Nat.lt_of_le_of_lt hle (Nat.lt_of_not_le hearly)
      refine ⟨fun hissues => ?_, hlt⟩
      have hmem : entry ∈ newer ++ compared :: older :=
        List.mem_append_right _ (List.mem_cons_of_mem _ hentry)
      exact absurd (hissue entry hmem hissues) (Nat.not_le_of_lt hlt)
  exact hverdict (verdict_eq_none_of_locked hlocked (Nat.lt_of_not_le hearly))

/-- Within the time of one lock at most five wrong codes are evaluated. -/
theorem wrongCodes_le_of_window {window earlier : List s.CallEntry} {opening : Nat}
    (hrun : s.CallRun start (window ++ earlier) last) (hguess : Service.Guesses u window)
    (hwithin : ∀ entry ∈ window, opening ≤ entry.instant ∧
      entry.instant < truncate (opening + lockoutDuration)) :
    Service.wrongCodes u window ≤ maxFailedAttempts := by
  let unlock := truncate (opening + lockoutDuration)
  -- The fifth wrong code locks beyond the window, so nothing is compared after it.
  have hinvariant : last.CountsWrong u (Service.wrongCodes u window) ∧
      Service.wrongCodes u window ≤ maxFailedAttempts ∧
      (maxFailedAttempts ≤ Service.wrongCodes u window → last.LockedUntil u unlock) := by
    apply Serial.along hrun rfl (motive := fun segment state =>
      state.CountsWrong u (Service.wrongCodes u segment) ∧
        Service.wrongCodes u segment ≤ maxFailedAttempts ∧
        (maxFailedAttempts ≤ Service.wrongCodes u segment → state.LockedUntil u unlock))
    · intro state _
      exact ⟨.inr (Nat.zero_le _), Nat.zero_le _, fun hmax => absurd hmax (Nat.not_succ_le_zero _)⟩
    · intro segment entry hentry hprocess ⟨hcount, hbound, hlocked⟩
      obtain ⟨hcorrect, hissue⟩ := hguess entry hentry
      obtain ⟨hopening, hbefore⟩ := hwithin entry hentry
      have hcount' := countsWrong_step hprocess hcorrect hissue hcount
      rw [wrongCodes_cons]
      by_cases hwrong : s.verdict u entry = some false
      · have hunlocked : Service.wrongCodes u segment < maxFailedAttempts := by
          by_contra hmax
          have hnone := verdict_eq_none_of_locked (hlocked (Nat.le_of_not_lt hmax)) hbefore
          exact nomatch hwrong.symm.trans hnone
        rw [if_pos hwrong] at hcount' ⊢
        refine ⟨hcount', hunlocked, fun hmax => ?_⟩
        have hopened : unlock ≤ truncate (entry.instant + lockoutDuration) :=
          truncate_le_truncate (Nat.add_le_add_right hopening _)
        rcases lockedUntil_of_wrong hprocess hwrong hcount' hmax with
          hnone | ⟨instant, hinstant, hle⟩
        · exact .inl hnone
        · exact .inr ⟨instant, hinstant, Nat.le_trans hopened hle⟩
      · rw [if_neg hwrong] at hcount' ⊢
        exact ⟨hcount', hbound, fun hmax =>
          lockedUntil_step hprocess hissue (hlocked hmax) hbefore⟩
  exact hinvariant.2.1

/-- The lock lasts fifteen minutes, up to the second that the format drops, unless a
new code is issued among the five wrong codes or during the lock. -/
theorem email_lock_lasts (hrun : s.CallRun start history last) (u : Uuid) :
    (∀ later fifth streak earlier, history = later ++ fifth :: (streak ++ earlier) →
      s.verdict u fifth = some false →
      maxFailedAttempts ≤ Service.wrongCodes u (fifth :: streak) → Service.Guesses u streak →
      (∀ entry ∈ later, s.Issues u entry →
        truncate (fifth.instant + lockoutDuration) ≤ entry.instant) →
      ∀ entry ∈ later, s.verdict u entry ≠ none →
        truncate (fifth.instant + lockoutDuration) ≤ entry.instant) ∧
    ∀ later window earlier opening, history = later ++ (window ++ earlier) →
      Service.Guesses u window →
      (∀ entry ∈ window, opening ≤ entry.instant ∧
        entry.instant < truncate (opening + lockoutDuration)) →
      Service.wrongCodes u window ≤ maxFailedAttempts := by
  constructor
  · rintro later fifth streak earlier rfl hwrong hmax hguess hissue entry hentry hverdict
    exact unlock_le_of_compared hrun hwrong hmax hguess hissue hentry hverdict
  · intro later window earlier opening hsplit hguess hwithin
    obtain ⟨state, hwindow⟩ := Serial.earlier hrun hsplit
    exact wrongCodes_le_of_window hwindow hguess hwithin

end Run

namespace Sample

/-- Alice has activated codes by email. -/
def dbWithEmail : Db := db.setMeta alice.id .email2faEnabled (some textTrue)

def resend (seconds : Nat) : Db → service.CallEntry :=
  service.entryAt (seconds * second) (.sendEmail2FALoginOTP ⟨⟨123456, by decide⟩, seconds⟩ alice.id)

/-- A guess that is wrong. -/
def guess (seconds : Nat) : Db → service.CallEntry :=
  service.entryAt (seconds * second) (.verifyEmail2FALogin alice.id (bytesOf "000000"))

def sent : service.CallEntry := resend 1000 dbWithEmail
def guess1 : service.CallEntry := guess 1001 sent.after
def guess2 : service.CallEntry := guess 1002 guess1.after
def guess3 : service.CallEntry := guess 1003 guess2.after
def guess4 : service.CallEntry := guess 1004 guess3.after
def guess5 : service.CallEntry := guess 1005 guess4.after

/-- The sixth guess without a new code. -/
def guess6 : service.CallEntry := guess 1006 guess5.after

theorem run_guess5 : service.CallRun dbWithEmail
    [guess5, guess4, guess3, guess2, guess1, sent] guess5.after := by
  have hsent : service.CallRun dbWithEmail [sent] sent.after :=
    Service.callRun_first dbWithEmail sent.instant sent.request
  have hguess1 := Service.callRun_next hsent guess1.instant guess1.request (by decide)
  have hguess2 := Service.callRun_next hguess1 guess2.instant guess2.request (by decide)
  have hguess3 := Service.callRun_next hguess2 guess3.instant guess3.request (by decide)
  have hguess4 := Service.callRun_next hguess3 guess4.instant guess4.request (by decide)
  exact Service.callRun_next hguess4 guess5.instant guess5.request (by decide)

theorem wrongCodes_guesses :
    Service.wrongCodes alice.id [guess5, guess4, guess3, guess2, guess1] = 5 := by
  decide +kernel

theorem guesses_guesses : Service.Guesses alice.id [guess4, guess3, guess2, guess1] := by
  have hverdict : ∀ entry ∈ [guess4, guess3, guess2, guess1],
      service.verdict alice.id entry ≠ some true := by
    decide +kernel
  have hissue : ∀ entry ∈ [guess4, guess3, guess2, guess1], ¬service.Issues alice.id entry := by
    intro entry hentry
    simp only [List.mem_cons, List.not_mem_nil, or_false] at hentry
    rcases hentry with rfl | rfl | rfl | rfl <;> exact id
  exact fun entry hentry => ⟨hverdict entry hentry, hissue entry hentry⟩

/-- The sixth guess is not compared with the code. -/
theorem guess6_locked : service.verdict alice.id guess6 = none := by
  by_contra hcompared
  have hrun : service.CallRun dbWithEmail
      [guess6, guess5, guess4, guess3, guess2, guess1, sent] guess6.after :=
    Service.callRun_next run_guess5 guess6.instant guess6.request (by decide)
  have hlate := (email_lock_lasts hrun alice.id).1 [guess6] guess5 [guess4, guess3, guess2, guess1]
    [sent] rfl (by decide +kernel) (by rw [wrongCodes_guesses]; decide) guesses_guesses
    (fun entry hentry hissue => by rw [List.mem_singleton.mp hentry] at hissue; exact hissue.elim)
    guess6 (List.mem_singleton_self _) hcompared
  exact absurd hlate (by decide)

/-- A new code in the second after the fifth guess, and a guess at it. -/
def resent : service.CallEntry := resend 1006 guess5.after
def guessAgain : service.CallEntry := guess 1007 resent.after

theorem run_guessAgain : service.CallRun dbWithEmail
    [guessAgain, resent, guess5, guess4, guess3, guess2, guess1, sent] guessAgain.after := by
  have hresent : service.CallRun dbWithEmail
      [resent, guess5, guess4, guess3, guess2, guess1, sent] resent.after :=
    Service.callRun_next run_guess5 resent.instant resent.request (by decide)
  exact Service.callRun_next hresent guessAgain.instant guessAgain.request (by decide)

end Sample

/-- A resent code lifts the lock: two seconds after the fifth wrong code the next one
is compared. -/
theorem not_forall_email_lock_lasts :
    ¬∀ (s : Service) (start last : Db) (history : List s.CallEntry) (u : Uuid),
      s.CallRun start history last →
      ∀ (later : List s.CallEntry) (fifth : s.CallEntry) (streak earlier : List s.CallEntry),
        history = later ++ fifth :: (streak ++ earlier) →
        s.verdict u fifth = some false →
        maxFailedAttempts ≤ Service.wrongCodes u (fifth :: streak) →
        (∀ entry ∈ streak, s.verdict u entry ≠ some true ∧ ¬entry.request.DisablesEmail2FA u) →
        ∀ entry ∈ later, s.verdict u entry ≠ none →
          truncate (fifth.instant + lockoutDuration) ≤ entry.instant := by
  intro hlasts
  have hstreak : ∀ entry ∈ [Sample.guess4, Sample.guess3, Sample.guess2, Sample.guess1],
      Sample.service.verdict Sample.alice.id entry ≠ some true ∧
        ¬entry.request.DisablesEmail2FA Sample.alice.id := by
    intro entry hentry
    refine ⟨(Sample.guesses_guesses entry hentry).1, ?_⟩
    simp only [List.mem_cons, List.not_mem_nil, or_false] at hentry
    rcases hentry with rfl | rfl | rfl | rfl <;> exact id
  have hlate := hlasts Sample.service _ _ _ Sample.alice.id Sample.run_guessAgain
    [Sample.guessAgain, Sample.resent] Sample.guess5
    [Sample.guess4, Sample.guess3, Sample.guess2, Sample.guess1] [Sample.sent] rfl
    (by decide +kernel) (by rw [Sample.wrongCodes_guesses]; decide) hstreak Sample.guessAgain
    List.mem_cons_self (by decide +kernel)
  exact absurd hlate (by decide)

end Skolva.Auth
