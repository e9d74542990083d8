import Skolva.Auth.EmailLockout

/-! # Codes by email as an abstract machine

For each user the machine remembers the code issued last, when that was, and how many
wrong codes have been evaluated since. Five keys of `users_meta` encode it in every
run of the service.
-/

namespace Skolva.Auth

open Effect Time

/-! ## The machine -/

/-- A code that has been issued and neither accepted nor cleared. -/
structure IssuedOTP where
  code : Bytes
  issuedAt : Nat
  wrong : Nat
  deriving DecidableEq

namespace IssuedOTP

/-- The code can still be evaluated. -/
def Live (issued : IssuedOTP) (now : Nat) : Prop :=
  now ≤ truncate (issued.issuedAt + email2faOTPExpiry) ∧ issued.wrong < maxFailedAttempts

instance (issued : IssuedOTP) (now : Nat) : Decidable (issued.Live now) :=
  inferInstanceAs (Decidable (_ ∧ _))

/-- What the evaluation of a code gives, if the machine comes to one. -/
def compare (issued : Option IssuedOTP) (now : Nat) (code : Bytes) : Option Bool :=
  match issued with
  | none => none
  | some issued => if issued.Live now then some (code = issued.code) else none

/-- The code is the last one issued, is unused, and neither the ten minutes nor the five
attempts are over. -/
def Accepts (issued : Option IssuedOTP) (now : Nat) (code : Bytes) : Prop :=
  ∃ pending ∈ issued, pending.code = code ∧
    now ≤ truncate (pending.issuedAt + email2faOTPExpiry) ∧ pending.wrong < maxFailedAttempts

theorem compare_eq_true_iff {issued : Option IssuedOTP} {now : Nat} {code : Bytes} :
    compare issued now code = some true ↔ Accepts issued now code := by
  unfold compare Accepts
  cases issued with
  | none => simp
  | some pending =>
      by_cases hlive : pending.Live now
      · simp only [if_pos hlive, Option.some.injEq, decide_eq_true_eq, Option.mem_def,
          exists_eq_left']
        exact ⟨fun hcode => ⟨hcode.symm, hlive⟩, fun haccepts => haccepts.1.symm⟩
      · simp only [if_neg hlive, reduceCtorEq, Option.mem_def, Option.some.injEq,
          exists_eq_left', false_iff, not_and]
        exact fun _ hfresh hwrong => hlive ⟨hfresh, hwrong⟩

end IssuedOTP

variable (s : Service)

/-- The user a call issues a code to, and what is drawn for the code. -/
def Service.emailIssue (db : Db) : ServiceCall → Option (Uuid × OTPDraw)
  | .setupEmail2FA draw userID =>
      if db.usersMeta userID .email2faEnabled ≠ some textTrue ∧
          (db.liveUser userID).isSome = true then
        some (userID, draw)
      else none
  | .sendEmail2FALoginOTP draw userID =>
      if db.usersMeta userID .email2faEnabled = some textTrue ∧
          (db.liveUser userID).isSome = true then
        some (userID, draw)
      else none
  | .login draw email password =>
      match db.userWithEmail s.lib.lower email with
      | none => none
      | some user =>
          if (user.isActive = true ∧ verifyPassword s.lib user.passwordHash password = true) ∧
              db.usersMeta user.id .email2faEnabled = some textTrue ∧
              (db.liveUser user.id).isSome = true then
            some (user.id, draw.otp)
          else none
  | _ => none

variable {s}

/-- A new code replaces the old one, and an evaluation uses it up or counts. -/
def Service.stepOTP (u : Uuid) (entry : s.CallEntry) (issued : Option IssuedOTP) :
    Option IssuedOTP :=
  match entry.request with
  | .confirmEmail2FA .. | .verifyEmail2FALogin .. =>
      match s.verdict u entry with
      | none => issued
      | some true => none
      | some false => issued.map fun pending => { pending with wrong := pending.wrong + 1 }
  | .disableEmail2FA userID => if userID = u then none else issued
  | request =>
      match s.emailIssue entry.before request with
      | none => issued
      | some (userID, draw) =>
          if userID = u then some ⟨generateNumericOTP draw, entry.instant, 0⟩ else issued

/-- What is issued to the user after a history. -/
def Service.issuedAfter (u : Uuid) (first : Option IssuedOTP) (history : List s.CallEntry) :
    Option IssuedOTP :=
  history.foldr (Service.stepOTP u) first

variable (s)

/-- The keys of a user encode what the machine remembers. From the fifth wrong code on
the lock outlives the code. -/
def Service.EncodesOTP (db : Db) (u : Uuid) : Option IssuedOTP → Prop
  | none => db.usersMeta u .email2faOTPHash = none
  | some issued =>
      (∃ salt hash, s.lib.bcryptGenerate salt issued.code = some hash ∧
        db.usersMeta u .email2faOTPHash = some hash) ∧
      db.usersMeta u .email2faExpires =
        some (formatRFC3339 (issued.issuedAt + email2faOTPExpiry)) ∧
      Service.emailAttempts db u = issued.wrong ∧
      (issued.wrong < maxFailedAttempts → db.usersMeta u .email2faLocked = none) ∧
      (maxFailedAttempts ≤ issued.wrong →
        ∃ unlock ∈ (db.usersMeta u .email2faLocked).bind parseRFC3339,
          truncate (issued.issuedAt + email2faOTPExpiry) < unlock)

variable {s} {u : Uuid} {db : Db}

/-- A user without a stored code has none. -/
theorem encodesOTP_none (hnone : db.usersMeta u .email2faOTPHash = none) :
    s.EncodesOTP db u none := hnone

/-- With an ideal `bcrypt`, `verifyEmailOTP` evaluates a code as the machine does. -/
theorem emailComparison_eq (hbcrypt : s.lib.IdealBcrypt) {issued : Option IssuedOTP}
    (hencodes : s.EncodesOTP db u issued) (now : Nat) (code : Bytes) :
    s.emailComparison now db u code = IssuedOTP.compare issued now code := by
  obtain ⟨active, hrun, hactive⟩ := Service.run_activeEmailOTP s now db u
  unfold Service.emailComparison IssuedOTP.compare
  rw [hrun]
  cases issued with
  | none =>
      cases active with
      | error err => rfl
      | ok hash => exact nomatch ((hactive hash).mp rfl).2.2.symm.trans hencodes
  | some issued =>
      obtain ⟨⟨salt, stored, hgenerate, hhash⟩, hexpires, -, hunlocked, hlocked⟩ := hencodes
      have hfits : ∀ hash, Service.LiveEmailOTP db now u hash ↔
          issued.Live now ∧ hash = stored := by
        intro hash
        unfold Service.LiveEmailOTP Service.EmailLockedAt IssuedOTP.Live
        rw [hexpires, hhash]
        constructor
        · rintro ⟨hopen, ⟨instant, hinstant, hle⟩, hstored⟩
          obtain rfl := Option.some.inj hinstant
          refine ⟨⟨hle, ?_⟩, (Option.some.inj hstored).symm⟩
          -- Five wrong codes would have locked the factor beyond the expiry of the code.
          by_contra hmax
          obtain ⟨unlock, hunlock, hlate⟩ := hlocked (Nat.le_of_not_lt hmax)
          exact hopen ⟨unlock, hunlock, Nat.lt_of_le_of_lt hle hlate⟩
        · rintro ⟨⟨hle, hwrong⟩, rfl⟩
          refine ⟨?_, ⟨_, rfl, hle⟩, rfl⟩
          rw [hunlocked hwrong]
          rintro ⟨instant, hinstant, -⟩
          exact nomatch hinstant
      by_cases hlive : issued.Live now
      · dsimp only
        rw [if_pos hlive]
        obtain rfl := (hactive stored).mpr ((hfits stored).mpr ⟨hlive, rfl⟩)
        have hcompare := hbcrypt.compare_iff salt issued.code stored hgenerate code
        exact congrArg some (Bool.eq_iff_iff.mpr (hcompare.trans decide_eq_true_iff.symm))
      · dsimp only
        rw [if_neg hlive]
        cases active with
        | error err => rfl
        | ok hash => exact absurd ((hfits hash).mp ((hactive hash).mp rfl)).1 hlive

/-! ## What calls do to the keys -/

section Keys

variable {now : Nat} {db' : Db} {issued : Option IssuedOTP}

theorem encodesOTP_of_keys
    (hkeys : ∀ key, key ≠ .email2faEnabled → ¬key.IsReset → db'.usersMeta u key = db.usersMeta u key)
    (hencodes : s.EncodesOTP db u issued) : s.EncodesOTP db' u issued := by
  have hhash := hkeys .email2faOTPHash (by decide) id
  have hexpires := hkeys .email2faExpires (by decide) id
  have hattempts := hkeys .email2faAttempts (by decide) id
  have hlocked := hkeys .email2faLocked (by decide) id
  unfold Service.EncodesOTP Service.emailAttempts at hencodes ⊢
  rw [hhash, hexpires, hattempts, hlocked]
  exact hencodes

/-- The state after a code has been issued, but for the mail. -/
def Service.withEmailOTP (db : Db) (now : Nat) (u : Uuid) (hash : Text) : Db :=
  (((db.setMeta u .email2faOTPHash (some hash)).setMeta u .email2faExpires
    (some (formatRFC3339 (now + email2faOTPExpiry)))).setMeta u .email2faAttempts none).setMeta
    u .email2faLocked none

/-- A new code starts without wrong codes. -/
theorem encodesOTP_issued {draw : OTPDraw} {hash : Text}
    (hhash : s.lib.bcryptGenerate draw.salt (generateNumericOTP draw) = some hash) :
    s.EncodesOTP (Service.withEmailOTP db now u hash) u
      (some ⟨generateNumericOTP draw, now, 0⟩) := by
  refine ⟨⟨draw.salt, hash, hhash, ?_⟩, ?_, ?_, fun _ => ?_,
    fun hmax => absurd hmax (Nat.not_succ_le_zero _)⟩
  · simp [Service.withEmailOTP, Db.setMeta_apply]
  · simp [Service.withEmailOTP, Db.setMeta_apply]
  · simp [Service.withEmailOTP, Service.emailAttempts, Service.storedAttempts, Db.setMeta_apply]
  · simp [Service.withEmailOTP]

/-- One more wrong code. The fifth locks the factor for longer than the code lives. -/
theorem encodesOTP_counted {pending : IssuedOTP} (hencodes : s.EncodesOTP db u (some pending))
    (hpast : pending.issuedAt ≤ now) (hwrong : pending.wrong < maxFailedAttempts) :
    s.EncodesOTP (Service.countWrongOTP db now u) u
      (some { pending with wrong := pending.wrong + 1 }) := by
  obtain ⟨⟨salt, hash, hgenerate, hhash⟩, hexpires, hattempts, hunlocked, -⟩ := hencodes
  refine ⟨⟨salt, hash, hgenerate, ?_⟩, ?_, ?_, ?_, ?_⟩
  · rw [Service.countWrongOTP_key, if_neg (by decide), if_neg (fun hkey => nomatch hkey.1)]
    exact hhash
  · rw [Service.countWrongOTP_key, if_neg (by decide), if_neg (fun hkey => nomatch hkey.1)]
    exact hexpires
  · rw [Service.emailAttempts, Service.countWrongOTP_key, if_pos rfl, hattempts]
    rfl
  · intro hfew
    rw [Service.countWrongOTP_key, if_neg (by decide), hattempts,
      if_neg (fun hlock => absurd hlock.2 (Nat.not_le_of_lt hfew))]
    exact hunlocked hwrong
  · intro hmax
    refine ⟨truncate (now + lockoutDuration), ?_, ?_⟩
    · rw [Service.countWrongOTP_key, if_neg (by decide), hattempts, if_pos ⟨rfl, hmax⟩]
      rfl
    · simp only [truncate, email2faOTPExpiry, lockoutDuration, minute, second]
      omega

theorem issuesEmailOTP_iff {request : ServiceCall} :
    s.IssuesEmailOTP db u request ↔ ∃ draw, s.emailIssue db request = some (u, draw) := by
  unfold Service.IssuesEmailOTP Service.emailIssue Db.EmailEnabled
  cases request with
  | setupEmail2FA draw userID =>
      simp only [Option.ite_none_right_eq_some, Option.some.injEq, Prod.mk.injEq]
      constructor
      · rintro ⟨rfl, hsetup⟩
        exact ⟨draw, hsetup, rfl, rfl⟩
      · rintro ⟨_, hsetup, rfl, -⟩
        exact ⟨rfl, hsetup⟩
  | sendEmail2FALoginOTP draw userID =>
      simp only [Option.ite_none_right_eq_some, Option.some.injEq, Prod.mk.injEq]
      constructor
      · rintro ⟨rfl, hsend⟩
        exact ⟨draw, hsend, rfl, rfl⟩
      · rintro ⟨_, hsend, rfl, -⟩
        exact ⟨rfl, hsend⟩
  | login draw email password =>
      unfold Service.PasswordChecked
      cases huser : db.userWithEmail s.lib.lower email with
      | none => simp [huser]
      | some user =>
          simp only [huser, Option.ite_none_right_eq_some, Option.some.injEq, Prod.mk.injEq,
            exists_eq_left']
          constructor
          · rintro ⟨⟨rfl, hchecked⟩, hsend⟩
            exact ⟨draw.otp, ⟨hchecked, hsend⟩, rfl, rfl⟩
          · rintro ⟨_, ⟨hchecked, hsend⟩, rfl, -⟩
            exact ⟨⟨rfl, hchecked⟩, hsend⟩
  | _ => simp

theorem run_issueEmailOTP_meta {draw : OTPDraw} {hash : Text}
    (hhash : s.lib.bcryptGenerate draw.salt (generateNumericOTP draw) = some hash)
    (email subject intro : String) :
    ((s.issueEmailOTP draw u email subject intro).run (serve s.lib) now db).2.usersMeta =
      (Service.withEmailOTP db now u hash).usersMeta := by
  unfold Service.issueEmailOTP
  dsimp only
  rw [hhash]
  rfl

theorem run_sendEmail2FALoginOTP_meta {draw : OTPDraw} {hash : Text}
    (hhash : s.lib.bcryptGenerate draw.salt (generateNumericOTP draw) = some hash)
    (henabled : db.usersMeta u .email2faEnabled = some textTrue)
    (hlive : (db.liveUser u).isSome = true) :
    ((s.sendEmail2FALoginOTP draw u).run (serve s.lib) now db).2.usersMeta =
      (Service.withEmailOTP db now u hash).usersMeta := by
  obtain ⟨enabled, hrun, hiff⟩ := s.run_isEmail2FAEnabled now db u
  obtain ⟨user, huser⟩ := Option.isSome_iff_exists.mp hlive
  obtain rfl : enabled = true := hiff.mpr henabled
  unfold Service.sendEmail2FALoginOTP
  rw [Program.run_bind, hrun]
  dsimp only
  rw [Program.run_bind, Service.run_getUser, huser]
  exact run_issueEmailOTP_meta hhash ..

/-- A call that issues a code writes the keys of that user. -/
theorem processCall_meta_of_issue {request : ServiceCall} {draw : OTPDraw} {hash : Text}
    (hissue : s.emailIssue db request = some (u, draw))
    (hhash : s.lib.bcryptGenerate draw.salt (generateNumericOTP draw) = some hash) :
    (s.processCall now request db).2.usersMeta = (Service.withEmailOTP db now u hash).usersMeta := by
  unfold Service.processCall
  unfold Service.emailIssue at hissue
  cases request with
  | setupEmail2FA drawn userID =>
      obtain ⟨⟨hdisabled, hlive⟩, howner⟩ := Option.ite_none_right_eq_some.mp hissue
      obtain ⟨rfl, rfl⟩ := Prod.mk.inj (Option.some.inj howner)
      obtain ⟨enabled, hrun, hiff⟩ := s.run_isEmail2FAEnabled now db userID
      obtain ⟨user, huser⟩ := Option.isSome_iff_exists.mp hlive
      obtain rfl : enabled = false := Bool.eq_false_iff.mpr (mt hiff.mp hdisabled)
      rw [Service.call, Service.run_answering, Service.setupEmail2FA, Program.run_bind, hrun]
      dsimp only
      rw [Program.run_bind, Service.run_getUser, huser]
      exact run_issueEmailOTP_meta hhash ..
  | sendEmail2FALoginOTP drawn userID =>
      obtain ⟨⟨henabled, hlive⟩, howner⟩ := Option.ite_none_right_eq_some.mp hissue
      obtain ⟨rfl, rfl⟩ := Prod.mk.inj (Option.some.inj howner)
      rw [Service.call, Service.run_answering]
      exact run_sendEmail2FALoginOTP_meta hhash henabled hlive
  | login drawn email password =>
      cases huser : db.userWithEmail s.lib.lower email with
      | none => simp [huser] at hissue
      | some user =>
          simp only [huser] at hissue
          obtain ⟨⟨⟨hactive, hpassword⟩, henabled, hlive⟩, howner⟩ :=
            Option.ite_none_right_eq_some.mp hissue
          obtain ⟨rfl, rfl⟩ := Prod.mk.inj (Option.some.inj howner)
          rw [Service.call, Service.run_answering]
          rcases run_login_cases s now db drawn email password with ⟨hrefused, -⟩ |
            ⟨found, hfound, -, -, ⟨-, emailEnabled, hemail, hpending⟩ | ⟨hnone, -⟩⟩
          · exact absurd ⟨user, huser, hactive, hpassword⟩ hrefused
          · obtain rfl := Option.some.inj (huser.symm.trans hfound)
            rw [hpending, run_loginPending_state, if_pos (hemail.mpr henabled)]
            exact run_sendEmail2FALoginOTP_meta hhash henabled hlive
          · obtain rfl := Option.some.inj (huser.symm.trans hfound)
            exact absurd (.inr henabled) hnone
  | _ => cases hissue

end Keys

/-! ## One call -/

section Step

variable {entry : s.CallEntry} {issued : Option IssuedOTP}

/-- An evaluation gives what it gives on the machine. -/
theorem verdict_eq_compare (hbcrypt : s.lib.IdealBcrypt)
    (hencodes : s.EncodesOTP entry.before u issued) {verdict : Bool}
    (hverdict : s.verdict u entry = some verdict) :
    ∃ code, IssuedOTP.compare issued entry.instant code = some verdict := by
  have hcompare : ∀ code, s.emailComparison entry.instant entry.before u code = some verdict →
      ∃ code, IssuedOTP.compare issued entry.instant code = some verdict :=
    fun code hcode => ⟨code, (emailComparison_eq hbcrypt hencodes _ code).symm.trans hcode⟩
  unfold Service.verdict Service.emailVerdict at hverdict
  cases hrequest : entry.request with
  | confirmEmail2FA userID code =>
      rw [hrequest] at hverdict
      exact hcompare code (Option.ite_none_right_eq_some.mp hverdict).2
  | verifyEmail2FALogin userID code =>
      rw [hrequest] at hverdict
      exact hcompare code (Option.ite_none_right_eq_some.mp hverdict).2
  | _ =>
      rw [hrequest] at hverdict
      exact nomatch hverdict

/-- What has been evaluated could still be evaluated. -/
theorem live_of_compare {now : Nat} {code : Bytes} {verdict : Bool}
    (hcompare : IssuedOTP.compare issued now code = some verdict) :
    ∃ pending, issued = some pending ∧ pending.Live now := by
  unfold IssuedOTP.compare at hcompare
  cases issued with
  | none => exact nomatch hcompare
  | some pending => exact ⟨pending, rfl, (Option.ite_none_right_eq_some.mp hcompare).1⟩

/-- A step of the machine, by what the call does. -/
theorem stepOTP_cases (u : Uuid) (entry : s.CallEntry) (issued : Option IssuedOTP) :
    (∃ draw, s.emailIssue entry.before entry.request = some (u, draw) ∧
      s.verdict u entry = none ∧
      Service.stepOTP u entry issued = some ⟨generateNumericOTP draw, entry.instant, 0⟩) ∨
    (¬s.Issues u entry ∧
      ((entry.request.DisablesEmail2FA u ∧ s.verdict u entry = none ∧
          Service.stepOTP u entry issued = none) ∨
        (¬entry.request.DisablesEmail2FA u ∧ Service.stepOTP u entry issued =
          match s.verdict u entry with
          | none => issued
          | some true => none
          | some false =>
              issued.map fun pending => { pending with wrong := pending.wrong + 1 }))) := by
  obtain ⟨before, now, request, reply, after⟩ := entry
  unfold Service.Issues
  rw [issuesEmailOTP_iff]
  dsimp only
  by_cases hissue : ∃ draw, s.emailIssue before request = some (u, draw)
  · obtain ⟨draw, hissue⟩ := hissue
    refine .inl ⟨draw, hissue, ?_⟩
    cases request with
    | setupEmail2FA | sendEmail2FALoginOTP | login =>
        unfold Service.stepOTP
        dsimp only
        rw [hissue]
        exact ⟨rfl, if_pos rfl⟩
    | _ => exact nomatch hissue
  · refine .inr ⟨hissue, ?_⟩
    cases request with
    | disableEmail2FA userID =>
        by_cases howner : userID = u
        · exact .inl ⟨howner, rfl, if_pos howner⟩
        · exact .inr ⟨howner, if_neg howner⟩
    | confirmEmail2FA | verifyEmail2FALogin => exact .inr ⟨id, rfl⟩
    | _ =>
        refine .inr ⟨id, ?_⟩
        unfold Service.stepOTP
        dsimp only
        split
        · rfl
        next userID draw hother =>
            apply if_neg
            rintro rfl
            exact hissue ⟨draw, hother⟩

/-- The keys keep encoding the machine. -/
theorem encodesOTP_step (hbcrypt : s.lib.IdealBcrypt)
    (hprocess : s.processCall entry.instant entry.request entry.before =
      (entry.reply, entry.after)) (hencodes : s.EncodesOTP entry.before u issued)
    (hpast : ∀ pending ∈ issued, pending.issuedAt ≤ entry.instant) :
    s.EncodesOTP entry.after u (Service.stepOTP u entry issued) := by
  have hafter : (s.processCall entry.instant entry.request entry.before).2 = entry.after := by
    rw [hprocess]
  rw [← hafter]
  rcases stepOTP_cases u entry issued with ⟨draw, hissue, -, hstep⟩ |
    ⟨hissue, ⟨hdisable, -, hstep⟩ | ⟨hdisable, hstep⟩⟩
  · obtain ⟨hash, hhash⟩ := generate_numericOTP hbcrypt draw
    rw [hstep]
    have hissued : s.EncodesOTP (Service.withEmailOTP entry.before entry.instant u hash) u
        (some ⟨generateNumericOTP draw, entry.instant, 0⟩) :=
      encodesOTP_issued hhash
    refine encodesOTP_of_keys (fun key _ _ => ?_) hissued
    rw [processCall_meta_of_issue hissue hhash]
  · rw [hstep]
    exact processCall_key_of_disable entry.instant entry.before hdisable trivial
  · rw [hstep]
    cases hverdict : s.verdict u entry with
    | none =>
        refine encodesOTP_of_keys (fun key hkey hreset => ?_) hencodes
        exact processCall_key_of_quiet entry.instant entry.before hverdict hissue hdisable hkey hreset
    | some verdict =>
        have hkeys : ∀ key, key ≠ .email2faEnabled →
            (s.processCall entry.instant entry.request entry.before).2.usersMeta u key =
              (if verdict then Service.withoutEmailOTP entry.before u
                else Service.countWrongOTP entry.before entry.instant u).usersMeta u key :=
          fun key hkey => processCall_key_of_verdict entry.instant entry.before hverdict hkey
        obtain ⟨code, hcompare⟩ := verdict_eq_compare hbcrypt hencodes hverdict
        obtain ⟨pending, rfl, -, hwrong⟩ := live_of_compare hcompare
        cases verdict with
        | true =>
            have hgone := hkeys .email2faOTPHash (by decide)
            simpa [Service.EncodesOTP, Service.withoutEmailOTP, Db.setMeta_apply] using hgone
        | false =>
            exact encodesOTP_of_keys (fun key hkey _ => hkeys key hkey)
              (encodesOTP_counted hencodes (hpast pending rfl) hwrong)

/-- A wrong code is counted on fewer than five, and nothing else adds to the counter. -/
theorem emailAttempts_step (hbcrypt : s.lib.IdealBcrypt)
    (hprocess : s.processCall entry.instant entry.request entry.before =
      (entry.reply, entry.after)) (hencodes : s.EncodesOTP entry.before u issued)
    (hcount : Service.emailAttempts entry.before u ≤ maxFailedAttempts) :
    Service.emailAttempts entry.after u ≤ maxFailedAttempts := by
  have hafter : (s.processCall entry.instant entry.request entry.before).2 = entry.after := by
    rw [hprocess]
  have hnone : entry.after.usersMeta u .email2faAttempts = none →
      Service.emailAttempts entry.after u ≤ maxFailedAttempts := by
    intro hkey
    rw [Service.emailAttempts, hkey]
    exact Nat.zero_le _
  rcases stepOTP_cases u entry issued with ⟨draw, hissue, -, -⟩ |
    ⟨hissue, ⟨hdisable, -, -⟩ | ⟨hdisable, -⟩⟩
  · obtain ⟨hash, hhash⟩ := generate_numericOTP hbcrypt draw
    apply hnone
    rw [← hafter, processCall_meta_of_issue hissue hhash]
    simp [Service.withEmailOTP, Db.setMeta_apply]
  · apply hnone
    rw [← hafter]
    exact processCall_key_of_disable entry.instant entry.before hdisable trivial
  · cases hverdict : s.verdict u entry with
    | none =>
        have hsame := processCall_key_of_quiet entry.instant entry.before hverdict hissue hdisable
          (by decide : MetaKey.email2faAttempts ≠ .email2faEnabled) id
        rw [hafter] at hsame
        rw [Service.emailAttempts, hsame]
        exact hcount
    | some verdict =>
        cases verdict with
        | true =>
            apply hnone
            rw [← hafter,
              processCall_key_of_verdict entry.instant entry.before hverdict (by decide)]
            simp [Service.withoutEmailOTP, Db.setMeta_apply]
        | false =>
            obtain ⟨code, hcompare⟩ := verdict_eq_compare hbcrypt hencodes hverdict
            obtain ⟨pending, rfl, -, hwrong⟩ := live_of_compare hcompare
            obtain ⟨-, -, hattempts, -⟩ := hencodes
            rw [(after_wrong hprocess hverdict).1, hattempts]
            exact hwrong

end Step

/-! ## Runs -/

section Run

variable {start last : Db} {history : List s.CallEntry} {first : Option IssuedOTP}

/-- A code that is issued was issued by an entry, or before the start. -/
theorem issuedAt_of_issuedAfter {pending : IssuedOTP}
    (hpending : Service.issuedAfter u first history = some pending) :
    (∃ entry ∈ history, pending.issuedAt = entry.instant) ∨
      ∃ old ∈ first, pending.issuedAt = old.issuedAt := by
  induction history generalizing pending with
  | nil => exact .inr ⟨pending, hpending, rfl⟩
  | cons entry earlier ih =>
      have hkept : ∀ old : IssuedOTP, Service.issuedAfter u first earlier = some old →
          (∃ other ∈ entry :: earlier, old.issuedAt = other.instant) ∨
            ∃ before ∈ first, old.issuedAt = before.issuedAt := by
        intro old hold
        rcases ih hold with ⟨other, hother, hissued⟩ | hfirst
        · exact .inl ⟨other, List.mem_cons_of_mem entry hother, hissued⟩
        · exact .inr hfirst
      change Service.stepOTP u entry (Service.issuedAfter u first earlier) = some pending at hpending
      rcases stepOTP_cases u entry (Service.issuedAfter u first earlier) with
        ⟨draw, -, -, hstep⟩ | ⟨-, ⟨-, -, hstep⟩ | ⟨-, hstep⟩⟩
      · rw [hstep] at hpending
        obtain rfl := Option.some.inj hpending
        exact .inl ⟨entry, List.mem_cons_self, rfl⟩
      · exact nomatch hstep.symm.trans hpending
      · rw [hstep] at hpending
        cases hverdict : s.verdict u entry with
        | none =>
            rw [hverdict] at hpending
            exact hkept pending hpending
        | some verdict =>
            rw [hverdict] at hpending
            cases verdict with
            | true => exact nomatch hpending
            | false =>
                obtain ⟨old, hold, rfl⟩ := Option.map_eq_some_iff.mp hpending
                exact hkept old hold

/-- In every run the keys of `users_meta` encode the machine. -/
theorem encodesOTP_issuedAfter (hbcrypt : s.lib.IdealBcrypt) (hrun : s.CallRun start history last)
    (hstart : s.EncodesOTP start u first)
    (hpast : ∀ pending ∈ first, ∀ entry ∈ history, pending.issuedAt ≤ entry.instant) :
    s.EncodesOTP last u (Service.issuedAfter u first history) := by
  -- On the run; a code in use was issued no later than the entry that meets it.
  induction hrun with
  | nil => exact hstart
  | @cons earlier before now request hhistory hadmissible ih =>
      have hearlier := ih fun pending hpending entry hentry =>
        hpast pending hpending entry (List.mem_cons_of_mem _ hentry)
      refine encodesOTP_step hbcrypt (s.processCall_entryAt now request before) hearlier ?_
      intro pending hpending
      rcases issuedAt_of_issuedAfter hpending with ⟨entry, hentry, hissued⟩ | ⟨old, hold, hissued⟩
      · rw [hissued]
        have hrun : s.CallRun start (s.entryAt now request before :: earlier) _ :=
          .cons now request hhistory hadmissible
        exact hrun.instant_le Service.callRun_forward (List.nil_append _).symm entry hentry
      · rw [hissued]
        exact hpast old hold _ List.mem_cons_self

/-- In every run the counter stays at five or below, far from where an `int` ends. -/
theorem emailAttempts_le (hbcrypt : s.lib.IdealBcrypt) (hrun : s.CallRun start history last)
    (hstart : s.EncodesOTP start u first)
    (hpast : ∀ pending ∈ first, ∀ entry ∈ history, pending.issuedAt ≤ entry.instant)
    (hcount : Service.emailAttempts start u ≤ maxFailedAttempts) :
    Service.emailAttempts last u ≤ maxFailedAttempts := by
  induction hrun with
  | nil => exact hcount
  | @cons earlier before now request hhistory _ ih =>
      have hrest : ∀ pending ∈ first, ∀ entry ∈ earlier, pending.issuedAt ≤ entry.instant :=
        fun pending hpending entry hentry =>
          hpast pending hpending entry (List.mem_cons_of_mem _ hentry)
      exact emailAttempts_step hbcrypt (s.processCall_entryAt now request before)
        (encodesOTP_issuedAfter hbcrypt hhistory hstart hrest) (ih hrest)

theorem countP_verdict_cons (verdict : Bool) (entry : s.CallEntry) (entries : List s.CallEntry) :
    (entry :: entries).countP (fun entry => s.verdict u entry = some verdict) =
      entries.countP (fun entry => s.verdict u entry = some verdict) +
        if s.verdict u entry = some verdict then 1 else 0 := by
  simp [List.countP_cons]

/-- While a code is not replaced, it is accepted once at most, and five wrong codes at most
are evaluated against it. -/
theorem evaluations_of_issued (hbcrypt : s.lib.IdealBcrypt)
    {later earlier : List s.CallEntry} {issue : s.CallEntry} {draw : OTPDraw}
    (hrun : s.CallRun start (later ++ issue :: earlier) last) (hstart : s.EncodesOTP start u first)
    (hpast : ∀ pending ∈ first, ∀ entry ∈ later ++ issue :: earlier,
      pending.issuedAt ≤ entry.instant)
    (hissue : s.emailIssue issue.before issue.request = some (u, draw))
    (hlater : ∀ entry ∈ later, ¬s.Issues u entry) :
    later.countP (fun entry => s.verdict u entry = some true) ≤ 1 ∧
      later.countP (fun entry => s.verdict u entry = some false) ≤ maxFailedAttempts := by
  -- On the later part: the code is in use with its wrong codes, or it is gone for good.
  suffices hcounts : ∀ accepted wrong,
      accepted = later.countP (fun entry => s.verdict u entry = some true) →
      wrong = later.countP (fun entry => s.verdict u entry = some false) →
      match Service.issuedAfter u first (later ++ issue :: earlier) with
      | none => accepted ≤ 1 ∧ wrong ≤ maxFailedAttempts
      | some pending => accepted = 0 ∧ wrong = pending.wrong ∧ wrong ≤ maxFailedAttempts by
    have hboth := hcounts _ _ rfl rfl
    split at hboth
    · exact hboth
    · exact ⟨hboth.1.trans_le (Nat.zero_le 1), hboth.2.2⟩
  induction later generalizing last with
  | nil =>
      rintro accepted wrong rfl rfl
      rcases stepOTP_cases u issue (Service.issuedAfter u first earlier) with
        ⟨drawn, -, -, hstep⟩ | ⟨hquiet, -⟩
      · rw [List.nil_append, show Service.issuedAfter u first (issue :: earlier) = _ from hstep]
        exact ⟨rfl, rfl, Nat.zero_le _⟩
      · exact absurd (issuesEmailOTP_iff.mpr ⟨draw, hissue⟩) hquiet
  | cons entry later ih =>
      obtain ⟨hbefore, -, -⟩ := Serial.entry hrun
        (List.cons_append.trans (List.nil_append _).symm)
      have hrest : ∀ old ∈ first, ∀ other ∈ later ++ issue :: earlier,
          old.issuedAt ≤ other.instant := fun old hold other hother =>
        hpast old hold other (List.mem_cons_of_mem entry hother)
      have hih := ih hbefore hrest (fun other hother => hlater other (List.mem_cons_of_mem _ hother))
        _ _ rfl rfl
      have hencodes := encodesOTP_issuedAfter hbcrypt hbefore hstart hrest
      rintro accepted wrong rfl rfl
      rw [countP_verdict_cons, countP_verdict_cons]
      rcases stepOTP_cases u entry (Service.issuedAfter u first (later ++ issue :: earlier)) with
        ⟨drawn, hissues, -, -⟩ | ⟨-, ⟨-, hverdict, hstep⟩ | ⟨-, hstep⟩⟩
      · exact absurd (issuesEmailOTP_iff.mpr ⟨drawn, hissues⟩) (hlater entry List.mem_cons_self)
      · rw [List.cons_append, show Service.issuedAfter u first (entry :: _) = _ from hstep, hverdict]
        split at hih
        · simpa using hih
        · simpa [hih.1] using hih.2.2
      · rw [List.cons_append, show Service.issuedAfter u first (entry :: _) = _ from hstep]
        cases hverdict : s.verdict u entry with
        | none => simpa [hverdict] using hih
        | some verdict =>
            obtain ⟨code, hcompare⟩ := verdict_eq_compare hbcrypt hencodes hverdict
            obtain ⟨pending, hpending, -, hwrong⟩ := live_of_compare hcompare
            rw [hpending] at hih ⊢
            obtain ⟨haccepted, hcount, hmax⟩ := hih
            cases verdict with
            | true => simpa [haccepted] using hmax
            | false =>
                refine ⟨by simpa using haccepted, by simpa using hcount, ?_⟩
                rw [if_pos rfl, hcount]
                exact hwrong

/-- In every run `verifyEmailOTP` accepts exactly the code that the machine accepts. So a
code is accepted once at most, and at most five wrong codes are evaluated against it. -/
theorem emailOTP_refines (hbcrypt : s.lib.IdealBcrypt) (hrun : s.CallRun start history last)
    (hstart : s.EncodesOTP start u first)
    (hpast : ∀ pending ∈ first, ∀ entry ∈ history, pending.issuedAt ≤ entry.instant) :
    (∀ now code, ((s.verifyEmailOTP u code).run (serve s.lib) now last).1 = .ok () ↔
      IssuedOTP.Accepts (Service.issuedAfter u first history) now code) ∧
    ∀ later issue earlier draw, history = later ++ issue :: earlier →
      s.emailIssue issue.before issue.request = some (u, draw) →
      (∀ entry ∈ later, ¬s.Issues u entry) →
      later.countP (fun entry => s.verdict u entry = some true) ≤ 1 ∧
        later.countP (fun entry => s.verdict u entry = some false) ≤ 5 := by
  constructor
  · intro now code
    have hencodes := encodesOTP_issuedAfter hbcrypt hrun hstart hpast
    rw [← IssuedOTP.compare_eq_true_iff, ← emailComparison_eq hbcrypt hencodes,
      Service.run_verifyEmailOTP_ok]
    obtain ⟨active, hactiveRun, hactive⟩ := Service.run_activeEmailOTP s now last u
    unfold Service.emailComparison
    rw [hactiveRun]
    simp only [← hactive]
    cases active with
    | error err => simp
    | ok hash => simp
  · rintro later issue earlier draw rfl hissue hlater
    exact evaluations_of_issued hbcrypt hrun hstart hpast hissue hlater

end Run

namespace Sample

/-- The code that Alice has been sent is accepted. -/
theorem emailOTP_refines_sent :
    ((service.verifyEmailOTP alice.id (bytesOf "123456")).run (serve service.lib) (1001 * second)
        sent.after).1 = .ok () ∧
      IssuedOTP.Accepts (Service.issuedAfter alice.id none [sent]) (1001 * second)
        (bytesOf "123456") := by
  have hrun : service.CallRun dbWithEmail [sent] sent.after :=
    Service.callRun_first dbWithEmail sent.instant sent.request
  have hstart : service.EncodesOTP dbWithEmail alice.id none :=
    encodesOTP_none (by decide)
  have hbcrypt : service.lib.IdealBcrypt := Reference.external_idealBcrypt
  have haccepted := (emailOTP_refines hbcrypt hrun hstart
    (fun pending hpending => nomatch hpending)).1 (1001 * second) (bytesOf "123456")
  have hok : ((service.verifyEmailOTP alice.id (bytesOf "123456")).run (serve service.lib)
      (1001 * second) sent.after).1 = .ok () := by
    decide +kernel
  exact ⟨hok, haccepted.mp hok⟩

end Sample

end Skolva.Auth
