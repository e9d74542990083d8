import Skolva.Auth.FailingCalls
import Skolva.Auth.Login

/-! # Writers of several keys

Five methods write more than one key of `users_meta`, each key with a call of its own.
Here one call of `metadata.Store` fails. A method that reports an error should have
changed no key, and what a mail carries should be accepted at once.
-/

namespace Skolva.Auth

open Effect

/-- The methods that write several keys, with what they draw. -/
inductive MetaWriter where
  | forgotPassword (draw : ResetDraw) (email : String)
  | setupEmail2FA (draw : OTPDraw) (userID : Uuid)
  | sendEmail2FALoginOTP (draw : OTPDraw) (userID : Uuid)
  | confirmEmail2FA (userID : Uuid) (code : Bytes)
  | disableEmail2FA (userID : Uuid)

/-- Both states hold the same reset and email keys. -/
def Db.SameFactorKeys (left right : Db) : Prop :=
  ∀ u key, key.IsReset ∨ key.IsEmail2FA → left.usersMeta u key = right.usersMeta u key

/-- One more mail has been sent. -/
def Db.withMail (db : Db) (message : Message) : Db := { db with mails := message :: db.mails }

@[simp] theorem Db.withMail_usersMeta (db : Db) (message : Message) :
    (db.withMail message).usersMeta = db.usersMeta := rfl

@[simp] theorem Db.withMail_liveUser (db : Db) (message : Message) (u : Uuid) :
    (db.withMail message).liveUser u = db.liveUser u := rfl

variable (s : Service) (failing : Nat) (cause : CallError) (now : Nat) (db : Db)

def Service.write : MetaWriter → Prog (Except Err Unit)
  | .forgotPassword draw email => s.forgotPassword draw email
  | .setupEmail2FA draw userID => s.setupEmail2FA draw userID
  | .sendEmail2FALoginOTP draw userID => s.sendEmail2FALoginOTP draw userID
  | .confirmEmail2FA userID code => s.confirmEmail2FA userID code
  | .disableEmail2FA userID => Service.disableEmail2FA userID

/-- A method while the call with this number fails, if it is one of `metadata.Store`. -/
def Service.writeFailing (writer : MetaWriter) : Except Err Unit × Nat × Db :=
  (s.write writer).run (serveFailing s.lib (onlyMetaCall failing cause)) now (0, db)

/-- A code that is entered is the one whose hash is stored. -/
def Service.EntersCorrectCode : MetaWriter → Prop
  | .confirmEmail2FA userID code =>
      ∃ hash ∈ db.usersMeta userID .email2faOTPHash, s.lib.bcryptCompare hash code = true
  | _ => True

/-- What a mail of the method carries is accepted now. -/
def Service.AcceptsMailed : MetaWriter → MailBody → Prop
  | .forgotPassword .., .resetLink user token _ =>
      ∀ salt newPassword hash, hashPassword s.lib salt newPassword = .ok hash →
        ((s.resetPassword salt user token newPassword).run (serve s.lib) now db).1 = .ok ()
  | .setupEmail2FA _ userID, .code _ otp _ =>
      ((s.confirmEmail2FA userID otp).run (serve s.lib) now db).1 = .ok ()
  | .sendEmail2FALoginOTP _ userID, .code _ otp _ =>
      ((s.verifyEmail2FALogin userID otp).run (serve s.lib) now db).1 = .ok ()
  | _, _ => True

/-- An error leaves the keys as they were, and a mail carries what is accepted. -/
structure Service.WritesAtomically (writer : MetaWriter) : Prop where
  unchanged : ∀ err, (s.writeFailing failing cause now db writer).1 = .error err →
    s.EntersCorrectCode db writer → (s.writeFailing failing cause now db writer).2.2.SameFactorKeys db
  mailed : ∀ message, (s.writeFailing failing cause now db writer).1 = .ok () →
    (s.writeFailing failing cause now db writer).2.2.mails = message :: db.mails →
    s.AcceptsMailed now (s.writeFailing failing cause now db writer).2.2 writer message.body

/-! ## Where a method stops half-way -/

/-- A code is issued up to its expiry, which cannot be stored, or up to a lock, which
cannot be removed. -/
def Service.IssueInterrupted (draw : OTPDraw) (u : Uuid) : Prop :=
  (db.liveUser u).isSome = true ∧
    ((failing = 3 ∧ s.lib.bcryptGenerate draw.salt (generateNumericOTP draw) ≠
        db.usersMeta u .email2faOTPHash) ∨
      (failing = 5 ∧ Service.EmailLockedAt db now u))

/-- The keys in the order in which `DisableEmail2FA` deletes them. -/
def email2FAKeys : List MetaKey :=
  [.email2faEnabled, .email2faOTPHash, .email2faExpires, .email2faAttempts, .email2faLocked]

/-- The call that fails is one after which the method reports an error with a key already
changed, or a success with a key not yet changed. -/
def Service.Interrupted : MetaWriter → Prop
  | .forgotPassword draw email =>
      ∃ user, db.userWithEmail s.lib.lower email = some user ∧
        ((failing = 2 ∧ s.lib.bcryptGenerate draw.salt (draw.plain s.lib) ≠
            db.usersMeta user.id .resetTokenHash) ∨
          (failing = 3 ∧ db.usersMeta user.id .resetUsed = some textTrue))
  | .setupEmail2FA draw userID =>
      ¬db.EmailEnabled userID ∧ s.IssueInterrupted failing now db draw userID
  | .sendEmail2FALoginOTP draw userID =>
      db.EmailEnabled userID ∧ s.IssueInterrupted failing now db draw userID
  | .confirmEmail2FA userID code =>
      failing = 8 ∧ ¬db.EmailEnabled userID ∧
        ∃ hash, Service.LiveEmailOTP db now userID hash ∧ s.lib.bcryptCompare hash code = true
  | .disableEmail2FA userID =>
      failing < email2FAKeys.length ∧
        ∃ key ∈ email2FAKeys.take failing, db.usersMeta userID key ≠ none

/-! ## Frames -/

theorem sameFactorKeys_refl : db.SameFactorKeys db := fun _ _ _ => rfl

theorem sameFactorKeys_setMeta_iff {u : Uuid} {key : MetaKey} {value : Option Text}
    (hkey : key.IsReset ∨ key.IsEmail2FA) :
    (db.setMeta u key value).SameFactorKeys db ↔ value = db.usersMeta u key := by
  constructor
  · intro hsame
    rw [← hsame u key hkey, Db.setMeta_self]
  · rintro rfl v other _
    rw [Db.setMeta_apply]
    split
    next hboth => rw [hboth.1, hboth.2]
    next => rfl

section Outcome

variable {writer : MetaWriter} {count : Nat} {after : Db}

theorem writesAtomically_error {err : Err}
    (hrun : s.writeFailing failing cause now db writer = (.error err, count, after)) :
    s.WritesAtomically failing cause now db writer ↔
      (s.EntersCorrectCode db writer → after.SameFactorKeys db) := by
  constructor
  · intro hatomic
    have hunchanged := hatomic.unchanged
    rw [hrun] at hunchanged
    exact hunchanged err rfl
  · intro hsame
    constructor
    · rw [hrun]
      exact fun _ _ => hsame
    · rw [hrun]
      intro message hok
      cases hok

theorem writesAtomically_mail {message : Message}
    (hrun : s.writeFailing failing cause now db writer = (.ok (), count, after))
    (hmails : after.mails = message :: db.mails) :
    s.WritesAtomically failing cause now db writer ↔
      s.AcceptsMailed now after writer message.body := by
  constructor
  · intro hatomic
    have hmailed := hatomic.mailed message
    rw [hrun] at hmailed
    exact hmailed rfl hmails
  · intro haccepts
    constructor
    · rw [hrun]
      intro err herr
      cases herr
    · rw [hrun]
      intro other _ hother
      obtain rfl := (List.cons.inj (hmails.symm.trans hother)).1
      exact haccepts

theorem writesAtomically_untouched {result : Except Err Unit}
    (hrun : s.writeFailing failing cause now db writer = (result, count, db)) :
    s.WritesAtomically failing cause now db writer := by
  constructor
  · rw [hrun]
    exact fun _ _ _ => sameFactorKeys_refl db
  · rw [hrun]
    intro message _ hmessage
    exact absurd hmessage.symm (List.cons_ne_self _ _)

/-- A method that succeeds without a mail. -/
theorem writesAtomically_silent
    (hrun : s.writeFailing failing cause now db writer = (.ok (), count, after))
    (hmails : after.mails = db.mails) : s.WritesAtomically failing cause now db writer := by
  constructor
  · rw [hrun]
    intro err herr
    cases herr
  · rw [hrun]
    intro message _ hmessage
    exact absurd (hmails.symm.trans hmessage).symm (List.cons_ne_self _ _)

end Outcome

/-! ## `ForgotPassword` -/

theorem resetPassword_accepts_iff (hbcrypt : s.lib.IdealBcrypt) {u : Uuid} {token : Bytes}
    (hlive : (db.liveUser u).isSome = true) :
    (∀ salt newPassword hash, hashPassword s.lib salt newPassword = .ok hash →
      ((s.resetPassword salt u token newPassword).run (serve s.lib) now db).1 = .ok ()) ↔
      s.LiveReset db now u token := by
  constructor
  · intro haccepts
    obtain ⟨hash, hhash⟩ := (hashPassword_isOk hbcrypt 0 [0]).mpr (by decide)
    rcases s.run_resetPassword now db 0 u token [0] with ⟨-, hreset, -⟩ | ⟨-, err, hrun⟩
    · exact hreset
    · have hok := haccepts 0 [0] hash hhash
      rw [hrun] at hok
      cases hok
  · intro hreset salt newPassword hash hhash
    rcases s.run_resetPassword now db salt u token newPassword with ⟨-, -, hrun⟩ | ⟨hnone, -⟩
    · rw [hrun, s.run_completeReset, hhash]
    · exact absurd ⟨hlive, hreset⟩ hnone

theorem liveUser_isSome_of_userWithEmail {lower : String → String} {email : String} {user : User}
    (huser : db.userWithEmail lower email = some user) : (db.liveUser user.id).isSome = true := by
  have hfound := List.find?_some huser
  simp only [decide_eq_true_eq] at hfound
  unfold Db.liveUser
  rw [List.find?_isSome]
  exact ⟨user, List.mem_of_find?_eq_some huser, by simpa using hfound.2.1⟩

/-- `ForgotPassword` for an account, while one call fails. -/
theorem writeFailing_forgotPassword {draw : ResetDraw} {email : String} {user : User} {hash : Text}
    (huser : db.userWithEmail s.lib.lower email = some user)
    (hhash : s.lib.bcryptGenerate draw.salt (draw.plain s.lib) = some hash) :
    s.writeFailing failing cause now db (.forgotPassword draw email) =
      if failing = 1 then (.error (.call cause), 2, db)
      else if failing = 2 then
        (.error (.call cause), 3, db.setMeta user.id .resetTokenHash (some hash))
      else
        let stored := Service.storedReset now user.id hash db
        let after := if failing = 3 then stored else stored.setMeta user.id .resetUsed none
        (.ok (), 5, after.withMail (s.resetMessage draw user.byEmailRow)) := by
  have hfind : onlyMetaCall failing cause 0 (.getUserByEmail email) = none := rfl
  unfold Service.writeFailing Service.write Service.forgotPassword
  rw [run_served s.lib now 0 db hfind]
  simp only [serve, huser, Option.map_some, one]
  rw [s.run_forgotPasswordAfter_failing _ now db hhash]
  by_cases hfirst : failing = 1
  · simp [onlyMetaCall, hfirst]
  · by_cases hsecond : failing = 2
    · simp [onlyMetaCall, hsecond]
    · by_cases hthird : failing = 3
      · simp [onlyMetaCall, hthird, attempted, serve, Db.withMail]
      · simp [onlyMetaCall, Ne.symm hfirst, Ne.symm hsecond, Ne.symm hthird, hfirst, hsecond,
          hthird, attempted, serve, Db.withMail]

/-- A token that has just been stored is accepted unless the flag is set. -/
theorem liveReset_of_stored (hbcrypt : s.lib.IdealBcrypt) {draw : ResetDraw} {u : Uuid} {hash : Text}
    (hhash : s.lib.bcryptGenerate draw.salt (draw.plain s.lib) = some hash)
    (htoken : db.usersMeta u .resetTokenHash = some hash)
    (hexpires : db.usersMeta u .resetExpiresAt = some (formatRFC3339 (now + resetTokenExpiry))) :
    s.LiveReset db now u (draw.plain s.lib) ↔ db.usersMeta u .resetUsed ≠ some textTrue := by
  have hcompare := (hbcrypt.compare_iff _ _ _ hhash (draw.plain s.lib)).mpr rfl
  have hlive : now ≤ Time.truncate (now + resetTokenExpiry) := Time.le_truncate_add (by decide)
  simp [Service.LiveReset, htoken, hexpires, hcompare, hlive]

theorem writesAtomically_forgotPassword (hbcrypt : s.lib.IdealBcrypt) (draw : ResetDraw)
    (email : String) :
    s.WritesAtomically failing cause now db (.forgotPassword draw email) ↔
      ¬s.Interrupted failing now db (.forgotPassword draw email) := by
  cases huser : db.userWithEmail s.lib.lower email with
  | none =>
      have hrun : s.writeFailing failing cause now db (.forgotPassword draw email) =
          (.ok (), 1, db) := by
        have hfind : onlyMetaCall failing cause 0 (.getUserByEmail email) = none := rfl
        unfold Service.writeFailing Service.write Service.forgotPassword
        rw [run_served s.lib now 0 db hfind]
        simp [serve, huser, one]
      simpa [Service.Interrupted, huser] using
        writesAtomically_untouched s failing cause now db hrun
  | some user =>
      obtain ⟨hash, hhash⟩ := generate_resetToken hbcrypt draw
      have hrun := writeFailing_forgotPassword s failing cause now db huser hhash
      have hlive := liveUser_isSome_of_userWithEmail db huser
      simp only [Service.Interrupted, huser, Option.some.injEq, exists_eq_left', hhash]
      by_cases hfirst : failing = 1
      · rw [if_pos hfirst] at hrun
        simpa [hfirst] using writesAtomically_untouched s failing cause now db hrun
      rw [if_neg hfirst] at hrun
      by_cases hsecond : failing = 2
      · rw [if_pos hsecond] at hrun
        have hkey : MetaKey.resetTokenHash.IsReset ∨ MetaKey.resetTokenHash.IsEmail2FA :=
          .inl trivial
        rw [writesAtomically_error s failing cause now db hrun, sameFactorKeys_setMeta_iff db hkey]
        simp [hsecond, Service.EntersCorrectCode]
      rw [if_neg hsecond] at hrun
      -- The mail has been sent. Only the flag of an earlier token can be in its way.
      by_cases hthird : failing = 3
      · simp only [if_pos hthird] at hrun
        rw [writesAtomically_mail s failing cause now db hrun rfl]
        refine (resetPassword_accepts_iff s now _ hbcrypt ?_).trans
          ((liveReset_of_stored s now _ hbcrypt hhash ?_ ?_).trans ?_)
        · exact hlive
        · simp [Service.storedReset, Db.setMeta_apply]
        · simp [Service.storedReset]
        · simp [hthird, Service.storedReset, Db.setMeta_apply]
      · simp only [if_neg hthird] at hrun
        rw [writesAtomically_mail s failing cause now db hrun rfl]
        refine (resetPassword_accepts_iff s now _ hbcrypt ?_).trans
          ((liveReset_of_stored s now _ hbcrypt hhash ?_ ?_).trans ?_)
        · exact hlive
        · simp [Service.storedReset, Db.setMeta_apply]
        · simp [Service.storedReset, Db.setMeta_apply]
        · simp [hsecond, hthird]

/-! ## Issuing a code -/

/-- The keys after a code has been issued, apart from a deletion that fails. -/
def Service.issuedFailing (u : Uuid) (hash : Text) : Db :=
  let stored := Service.storedEmailOTP now u hash db
  let cleared := if failing = 4 then stored else stored.setMeta u .email2faAttempts none
  if failing = 5 then cleared else cleared.setMeta u .email2faLocked none

theorem issuedFailing_apply (u : Uuid) (hash : Text) {key : MetaKey}
    (hkey : key ≠ .email2faAttempts) :
    (Service.issuedFailing failing now db u hash).usersMeta u key =
      match key with
      | .email2faOTPHash => some hash
      | .email2faExpires => some (formatRFC3339 (now + email2faOTPExpiry))
      | .email2faLocked => if failing = 5 then db.usersMeta u .email2faLocked else none
      | _ => db.usersMeta u key := by
  unfold Service.issuedFailing Service.storedEmailOTP
  cases key with
  | email2faAttempts => exact absurd rfl hkey
  | _ =>
      by_cases hfourth : failing = 4 <;> by_cases hfifth : failing = 5 <;>
        simp [hfourth, hfifth, Db.setMeta_apply]

theorem issuedFailing_mails (u : Uuid) (hash : Text) :
    (Service.issuedFailing failing now db u hash).mails = db.mails := by
  unfold Service.issuedFailing Service.storedEmailOTP
  by_cases hfourth : failing = 4 <;> by_cases hfifth : failing = 5 <;>
    simp [hfourth, hfifth, Db.setMeta]

theorem run_issueEmailOTP_interrupted {draw : OTPDraw} {hash : Text} (u : Uuid)
    (email subject intro : String)
    (hhash : s.lib.bcryptGenerate draw.salt (generateNumericOTP draw) = some hash) :
    (s.issueEmailOTP draw u email subject intro).run
        (serveFailing s.lib (onlyMetaCall failing cause)) now (2, db) =
      if failing = 2 then (.error (.call cause), 3, db)
      else if failing = 3 then
        (.error (.call cause), 4, db.setMeta u .email2faOTPHash (some hash))
      else
        (.ok (), 7, (Service.issuedFailing failing now db u hash).withMail {
          recipients := [email]
          subject := subject
          body := .code intro (generateNumericOTP draw) (email2faOTPExpiry / Time.minute) }) := by
  rw [s.run_issueEmailOTP_failing _ now db u email subject intro 2 hhash]
  unfold Service.issuedFailing
  by_cases hsecond : failing = 2
  · simp [onlyMetaCall, hsecond]
  · by_cases hthird : failing = 3
    · simp [onlyMetaCall, hthird]
    · by_cases hfourth : failing = 4
      · simp [onlyMetaCall, hfourth, attempted, serve, Db.withMail]
      · by_cases hfifth : failing = 5
        · simp [onlyMetaCall, hfifth, attempted, serve, Db.withMail]
        · simp [onlyMetaCall, Ne.symm hsecond, Ne.symm hthird, Ne.symm hfourth, Ne.symm hfifth,
            hsecond, hthird, hfourth, hfifth, attempted, serve, Db.withMail]

/-- A code that has just been issued is accepted unless an old lock is left. -/
theorem accepts_issuedFailing_iff (hbcrypt : s.lib.IdealBcrypt) {draw : OTPDraw} {hash : Text}
    (u : Uuid) (message : Message)
    (hhash : s.lib.bcryptGenerate draw.salt (generateNumericOTP draw) = some hash) :
    (∃ live, Service.LiveEmailOTP ((Service.issuedFailing failing now db u hash).withMail message)
        now u live ∧ s.lib.bcryptCompare live (generateNumericOTP draw) = true) ↔
      ¬(failing = 5 ∧ Service.EmailLockedAt db now u) := by
  have hexpires : now ≤ Time.truncate (now + email2faOTPExpiry) :=
    Time.le_truncate_add (by decide)
  have hcompare := (hbcrypt.compare_iff _ _ _ hhash (generateNumericOTP draw)).mpr rfl
  unfold Service.LiveEmailOTP Service.EmailLockedAt
  by_cases hfifth : failing = 5
  · simp [issuedFailing_apply, hfifth, hexpires, hcompare]
  · simp [issuedFailing_apply, hfifth, hexpires, hcompare]

theorem enabled_issuedFailing (u : Uuid) (hash : Text) (message : Message) :
    ((Service.issuedFailing failing now db u hash).withMail message).EmailEnabled u ↔
      db.EmailEnabled u := by
  simp [Db.EmailEnabled, issuedFailing_apply]

/-- A method that gets as far as issuing a code to an existing user. -/
theorem writesAtomically_issue (hbcrypt : s.lib.IdealBcrypt) {writer : MetaWriter} (draw : OTPDraw)
    {u : Uuid} (email subject intro : String) (hlive : (db.liveUser u).isSome = true)
    (hcorrect : s.EntersCorrectCode db writer)
    (hrun : s.writeFailing failing cause now db writer =
      (s.issueEmailOTP draw u email subject intro).run
        (serveFailing s.lib (onlyMetaCall failing cause)) now (2, db))
    (haccepts : ∀ after : Db, (after.EmailEnabled u ↔ db.EmailEnabled u) → ∀ intro minutes,
      (s.AcceptsMailed now after writer (.code intro (generateNumericOTP draw) minutes) ↔
        ∃ live, Service.LiveEmailOTP after now u live ∧
          s.lib.bcryptCompare live (generateNumericOTP draw) = true)) :
    s.WritesAtomically failing cause now db writer ↔ ¬s.IssueInterrupted failing now db draw u := by
  obtain ⟨hash, hhash⟩ := generate_numericOTP hbcrypt draw
  rw [run_issueEmailOTP_interrupted s failing cause now db u email subject intro hhash] at hrun
  unfold Service.IssueInterrupted
  rw [hhash]
  by_cases hsecond : failing = 2
  · rw [if_pos hsecond] at hrun
    simpa [hsecond] using writesAtomically_untouched s failing cause now db hrun
  rw [if_neg hsecond] at hrun
  by_cases hthird : failing = 3
  · rw [if_pos hthird] at hrun
    have hkey : MetaKey.email2faOTPHash.IsReset ∨ MetaKey.email2faOTPHash.IsEmail2FA :=
      .inr trivial
    rw [writesAtomically_error s failing cause now db hrun, sameFactorKeys_setMeta_iff db hkey]
    simp [hthird, hcorrect, hlive]
  rw [if_neg hthird] at hrun
  rw [writesAtomically_mail s failing cause now db hrun
      (congrArg _ (issuedFailing_mails failing now db u hash)),
    haccepts _ (enabled_issuedFailing failing now db u hash _),
    accepts_issuedFailing_iff s failing now db hbcrypt u _ hhash]
  simp [hthird, hlive]

theorem run_confirmEmail2FA_ok (u : Uuid) (code : Bytes) :
    ((s.confirmEmail2FA u code).run (serve s.lib) now db).1 = .ok () ↔
      ¬db.EmailEnabled u ∧ ∃ hash, Service.LiveEmailOTP db now u hash ∧
        s.lib.bcryptCompare hash code = true := by
  obtain ⟨enabled, hrun, henabled⟩ := s.run_isEmail2FAEnabled now db u
  unfold Service.confirmEmail2FA
  rw [Program.run_bind, hrun, ← henabled, ← s.run_verifyEmailOTP_ok]
  cases enabled with
  | true => simp
  | false =>
      dsimp only
      rw [Program.run_bind]
      generalize (s.verifyEmailOTP u code).run (serve s.lib) now db = verified
      obtain ⟨verdict, state⟩ := verified
      cases verdict with
      | error err => simp
      | ok _ => simp [serve]

/-- A method that does nothing, or gets as far as issuing a code. -/
def Service.ReachesIssue (writer : MetaWriter) (draw : OTPDraw) (u : Uuid) (wanted : Prop) : Prop :=
  ((failing = 0 ∨ ¬wanted ∨ (db.liveUser u).isSome = false) ∧
    ∃ result count, s.writeFailing failing cause now db writer = (result, count, db)) ∨
  (wanted ∧ (db.liveUser u).isSome = true ∧ ∃ email subject intro,
    s.writeFailing failing cause now db writer =
      (s.issueEmailOTP draw u email subject intro).run
        (serveFailing s.lib (onlyMetaCall failing cause)) now (2, db))

theorem reachesIssue_setupEmail2FA (draw : OTPDraw) (u : Uuid) :
    s.ReachesIssue failing cause now db (.setupEmail2FA draw u) draw u (¬db.EmailEnabled u) := by
  unfold Service.ReachesIssue Service.writeFailing Service.write Service.setupEmail2FA
  rw [Program.run_bind, Service.run_isEmail2FAEnabled_at]
  by_cases hzero : failing = 0
  · simp only [onlyMetaCall, hzero, if_true]
    exact .inl ⟨.inl trivial, _, _, rfl⟩
  by_cases henabled : db.usersMeta u .email2faEnabled = some textTrue
  · simp only [onlyMetaCall, if_neg (Ne.symm hzero), henabled, decide_true]
    exact .inl ⟨.inr (.inl (not_not_intro henabled)), _, _, rfl⟩
  simp only [onlyMetaCall, if_neg (Ne.symm hzero), henabled, decide_false]
  rw [Program.run_bind, run_getUser_failing]
  cases huser : db.liveUser u with
  | none => exact .inl ⟨.inr (.inr rfl), _, _, rfl⟩
  | some user => exact .inr ⟨henabled, rfl, _, _, _, rfl⟩

theorem reachesIssue_sendEmail2FALoginOTP (draw : OTPDraw) (u : Uuid) :
    s.ReachesIssue failing cause now db (.sendEmail2FALoginOTP draw u) draw u
      (db.EmailEnabled u) := by
  unfold Service.ReachesIssue Service.writeFailing Service.write Service.sendEmail2FALoginOTP
  rw [Program.run_bind, Service.run_isEmail2FAEnabled_at]
  by_cases hzero : failing = 0
  · simp only [onlyMetaCall, hzero, if_true]
    exact .inl ⟨.inl trivial, _, _, rfl⟩
  by_cases henabled : db.usersMeta u .email2faEnabled = some textTrue
  · simp only [onlyMetaCall, if_neg (Ne.symm hzero), henabled, decide_true]
    rw [Program.run_bind, run_getUser_failing]
    cases huser : db.liveUser u with
    | none => exact .inl ⟨.inr (.inr rfl), _, _, rfl⟩
    | some user => exact .inr ⟨henabled, rfl, _, _, _, rfl⟩
  · simp only [onlyMetaCall, if_neg (Ne.symm hzero), henabled, decide_false]
    exact .inl ⟨.inr (.inl henabled), _, _, rfl⟩

theorem writesAtomically_of_reachesIssue (hbcrypt : s.lib.IdealBcrypt) {writer : MetaWriter}
    {draw : OTPDraw} {u : Uuid} {wanted : Prop}
    (hreaches : s.ReachesIssue failing cause now db writer draw u wanted)
    (hcorrect : s.EntersCorrectCode db writer)
    (haccepts : wanted → ∀ after : Db, (after.EmailEnabled u ↔ db.EmailEnabled u) →
      ∀ intro minutes,
        (s.AcceptsMailed now after writer (.code intro (generateNumericOTP draw) minutes) ↔
          ∃ live, Service.LiveEmailOTP after now u live ∧
            s.lib.bcryptCompare live (generateNumericOTP draw) = true)) :
    s.WritesAtomically failing cause now db writer ↔
      ¬(wanted ∧ s.IssueInterrupted failing now db draw u) := by
  rcases hreaches with ⟨hquiet, result, count, hrun⟩ | ⟨hwanted, hlive, email, subject, intro, hrun⟩
  · refine iff_of_true (writesAtomically_untouched s failing cause now db hrun) ?_
    unfold Service.IssueInterrupted
    rintro ⟨hwanted, hlive, hcall⟩
    rcases hquiet with hzero | hunwanted | hmissing
    · omega
    · exact hunwanted hwanted
    · simp [hmissing] at hlive
  · rw [and_iff_right hwanted]
    exact writesAtomically_issue s failing cause now db hbcrypt draw email subject intro hlive
      hcorrect hrun (haccepts hwanted)

theorem writesAtomically_setupEmail2FA (hbcrypt : s.lib.IdealBcrypt) (draw : OTPDraw) (u : Uuid) :
    s.WritesAtomically failing cause now db (.setupEmail2FA draw u) ↔
      ¬s.Interrupted failing now db (.setupEmail2FA draw u) := by
  refine writesAtomically_of_reachesIssue s failing cause now db hbcrypt
    (reachesIssue_setupEmail2FA s failing cause now db draw u) trivial ?_
  intro hdisabled after hsame intro minutes
  refine (run_confirmEmail2FA_ok s now after u _).trans ?_
  rw [hsame, and_iff_right hdisabled]

theorem writesAtomically_sendEmail2FALoginOTP (hbcrypt : s.lib.IdealBcrypt) (draw : OTPDraw)
    (u : Uuid) :
    s.WritesAtomically failing cause now db (.sendEmail2FALoginOTP draw u) ↔
      ¬s.Interrupted failing now db (.sendEmail2FALoginOTP draw u) := by
  refine writesAtomically_of_reachesIssue s failing cause now db hbcrypt
    (reachesIssue_sendEmail2FALoginOTP s failing cause now db draw u) trivial ?_
  intro henabled after hsame intro minutes
  refine (s.run_verifyEmail2FALogin_ok now after u _).trans ?_
  unfold Service.AcceptsEmailOTP
  rw [hsame, and_iff_right henabled]

/-! ## Confirming a code -/

theorem attempted_metaDelete_mails (lib : External) (fails : Nat → Op → Option CallError)
    (index : Nat) (u : Uuid) (key : MetaKey) :
    (attempted lib fails now index (.metaDelete u key) db).mails = db.mails := by
  unfold attempted
  cases fails index (.metaDelete u key) <;> rfl

theorem compares_onlyMetaCall_iff {u : Uuid} {hash : Text} (hlate : 4 ≤ failing) :
    Service.ComparesEmailOTP (onlyMetaCall failing cause) now 1 db u hash ↔
      Service.LiveEmailOTP db now u hash := by
  have hfirst : ¬1 = failing := by omega
  have hsecond : ¬2 = failing := by omega
  have hthird : ¬3 = failing := by omega
  simp [Service.ComparesEmailOTP, Service.LiveEmailOTP, onlyMetaCall, hfirst, hsecond, hthird]

/-- The hash is gone once the code has been accepted, even if activation fails. -/
theorem acceptedEmailOTP_hash (u : Uuid) :
    (Service.acceptedEmailOTP (onlyMetaCall 8 cause) now 4 db u s.lib).usersMeta u
      .email2faOTPHash = none := by
  simp [Service.acceptedEmailOTP, attempted, onlyMetaCall, serve, Db.setMeta_apply]

theorem writesAtomically_confirmEmail2FA (u : Uuid) (code : Bytes) :
    s.WritesAtomically failing cause now db (.confirmEmail2FA u code) ↔
      ¬s.Interrupted failing now db (.confirmEmail2FA u code) := by
  have hstart : s.writeFailing failing cause now db (.confirmEmail2FA u code) =
      (s.confirmEmail2FA u code).run (serveFailing s.lib (onlyMetaCall failing cause)) now
        (0, db) := rfl
  unfold Service.confirmEmail2FA at hstart
  rw [Program.run_bind, Service.run_isEmail2FAEnabled_at] at hstart
  unfold Service.Interrupted
  by_cases hzero : failing = 0
  · simp only [onlyMetaCall, hzero, if_true] at hstart
    simpa [hzero] using writesAtomically_untouched s 0 cause now db hstart
  by_cases henabled : db.usersMeta u .email2faEnabled = some textTrue
  · simp only [onlyMetaCall, if_neg (Ne.symm hzero), henabled, decide_true] at hstart
    refine iff_of_true (writesAtomically_untouched s failing cause now db hstart) ?_
    exact fun hinterrupted => hinterrupted.2.1 henabled
  have hcall : onlyMetaCall failing cause 0 (.metaGet u .email2faEnabled) = none :=
    if_neg (Ne.symm hzero)
  simp only [hcall, henabled, decide_false] at hstart
  rw [Program.run_bind] at hstart
  rcases s.run_verifyEmailOTP_failing (onlyMetaCall failing cause) now 1 db u code with
    ⟨hash, hcompares, hrun⟩ | ⟨hnone, err, count, hrun⟩
  · have hstored : db.usersMeta u .email2faOTPHash = some hash := hcompares.2.2.2
    by_cases hcode : s.lib.bcryptCompare hash code = true
    · -- The code is accepted, and used up before the factor is activated.
      rw [if_pos hcode] at hrun
      simp only [hrun] at hstart
      by_cases hlast : failing = 8
      · subst hlast
        have hset : onlyMetaCall 8 cause 8 (.metaSet u .email2faEnabled textTrue) = some cause :=
          rfl
        rw [run_failed s.lib now _ _ hset] at hstart
        rw [writesAtomically_error s 8 cause now db hstart]
        refine iff_of_false (fun hsame => ?_) (not_not_intro ⟨rfl, henabled, hash,
          (compares_onlyMetaCall_iff 8 cause now db (by decide)).mp hcompares, hcode⟩)
        have hgone := hsame ⟨hash, hstored, hcode⟩ u .email2faOTPHash (.inr trivial)
        rw [acceptedEmailOTP_hash, hstored] at hgone
        cases hgone
      · have hset : onlyMetaCall failing cause 8 (.metaSet u .email2faEnabled textTrue) = none :=
          if_neg (Ne.symm hlast)
        rw [run_served s.lib now _ _ hset] at hstart
        refine iff_of_true (writesAtomically_silent s failing cause now db hstart ?_) ?_
        · simp [serve, Db.setMeta, Service.acceptedEmailOTP, attempted_metaDelete_mails]
        · exact fun hinterrupted => hlast hinterrupted.1
    · rw [if_neg hcode] at hrun
      obtain ⟨count, hrun⟩ := hrun
      simp only [hrun] at hstart
      rw [writesAtomically_error s failing cause now db hstart]
      refine iff_of_true (fun hcorrect => ?_) ?_
      · obtain ⟨other, hother, haccepts⟩ := hcorrect
        rw [hstored] at hother
        exact absurd (Option.some.inj hother ▸ haccepts) hcode
      · rintro ⟨-, -, other, hlive, haccepts⟩
        have hother := hlive.2.2.symm.trans hstored
        exact hcode (Option.some.inj hother ▸ haccepts)
  · simp only [hrun] at hstart
    refine iff_of_true (writesAtomically_untouched s failing cause now db hstart) ?_
    rintro ⟨rfl, -, hash, hlive, -⟩
    exact hnone hash ((compares_onlyMetaCall_iff 8 cause now db (by decide)).mpr hlive)

/-! ## Disabling the factor -/

/-- The keys of a user have been deleted. -/
def Db.withoutKeys (u : Uuid) : List MetaKey → Db → Db
  | [], db => db
  | key :: keys, db => withoutKeys u keys (db.setMeta u key none)

theorem withoutKeys_apply (u v : Uuid) (keys : List MetaKey) (key : MetaKey) :
    (Db.withoutKeys u keys db).usersMeta v key =
      if v = u ∧ key ∈ keys then none else db.usersMeta v key := by
  induction keys generalizing db with
  | nil => simp [Db.withoutKeys]
  | cons first keys ih =>
      rw [Db.withoutKeys, ih, Db.setMeta_apply]
      by_cases huser : v = u
      · by_cases hfirst : key = first <;> simp [huser, hfirst]
      · simp [huser]

theorem withoutKeys_mails (u : Uuid) (keys : List MetaKey) :
    (Db.withoutKeys u keys db).mails = db.mails := by
  induction keys generalizing db with
  | nil => rfl
  | cons first keys ih => exact ih (db.setMeta u first none)

/-- The loop stops at the call that fails, with the keys before it deleted. -/
theorem run_deleteKeys_failing (u : Uuid) (keys : List MetaKey) (index : Nat)
    (hindex : index ≤ failing) :
    (Service.deleteKeys u keys).run (serveFailing s.lib (onlyMetaCall failing cause)) now
        (index, db) =
      if failing < index + keys.length then
        (.error (.call cause), failing + 1, Db.withoutKeys u (keys.take (failing - index)) db)
      else (.ok (), index + keys.length, Db.withoutKeys u keys db) := by
  induction keys generalizing index db with
  | nil =>
      rw [if_neg (by simpa using hindex)]
      rfl
  | cons key keys ih =>
      unfold Service.deleteKeys
      by_cases hnow : index = failing
      · have hcall : onlyMetaCall failing cause index (.metaDelete u key) = some cause :=
          if_pos hnow
        rw [run_failed s.lib now index db hcall, if_pos (by simp [hnow]), hnow, Nat.sub_self]
        rfl
      · have hcall : onlyMetaCall failing cause index (.metaDelete u key) = none :=
          if_neg hnow
        obtain ⟨left, hleft⟩ : ∃ left, failing - index = left + 1 := ⟨failing - index - 1, by omega⟩
        have hrest : failing - (index + 1) = left := by omega
        have hlength : index + 1 + keys.length = index + (key :: keys).length := by
          simp only [List.length_cons]
          omega
        rw [run_served s.lib now index db hcall]
        dsimp only [serve]
        rw [ih (db.setMeta u key none) (index + 1) (by omega), hrest, hlength, hleft,
          List.take_succ_cons]
        rfl

theorem isEmail2FA_of_mem {key : MetaKey} (hkey : key ∈ email2FAKeys) : key.IsEmail2FA := by
  simp only [email2FAKeys, List.mem_cons, List.not_mem_nil, or_false] at hkey
  rcases hkey with rfl | rfl | rfl | rfl | rfl <;> trivial

theorem writesAtomically_disableEmail2FA (u : Uuid) :
    s.WritesAtomically failing cause now db (.disableEmail2FA u) ↔
      ¬s.Interrupted failing now db (.disableEmail2FA u) := by
  have hrun : s.writeFailing failing cause now db (.disableEmail2FA u) = _ :=
    run_deleteKeys_failing s failing cause now db u email2FAKeys 0 (Nat.zero_le _)
  rw [Nat.zero_add, Nat.sub_zero] at hrun
  unfold Service.Interrupted
  by_cases hshort : failing < email2FAKeys.length
  · rw [if_pos hshort] at hrun
    rw [writesAtomically_error s failing cause now db hrun]
    dsimp only
    rw [and_iff_right hshort]
    constructor
    · rintro hsame ⟨key, hkey, hstored⟩
      have hemail := isEmail2FA_of_mem (List.mem_of_mem_take hkey)
      have hgone := hsame trivial u key (.inr hemail)
      rw [withoutKeys_apply, if_pos ⟨rfl, hkey⟩] at hgone
      exact hstored hgone.symm
    · intro hnone _ v key _
      rw [withoutKeys_apply]
      split
      next hdeleted =>
          obtain ⟨rfl, hkey⟩ := hdeleted
          by_contra hstored
          exact hnone ⟨key, hkey, Ne.symm hstored⟩
      next => rfl
  · rw [if_neg hshort] at hrun
    refine iff_of_true (writesAtomically_silent s failing cause now db hrun ?_) ?_
    · exact withoutKeys_mails ..
    · exact fun hinterrupted => hshort hinterrupted.1

/-! ## Atomicity -/

/-- With an ideal `bcrypt`, a method writes its keys atomically unless the call that fails
interrupts it. -/
theorem writesAtomically_iff (hbcrypt : s.lib.IdealBcrypt) (writer : MetaWriter) :
    s.WritesAtomically failing cause now db writer ↔ ¬s.Interrupted failing now db writer := by
  cases writer with
  | forgotPassword draw email =>
      exact writesAtomically_forgotPassword s failing cause now db hbcrypt draw email
  | setupEmail2FA draw u =>
      exact writesAtomically_setupEmail2FA s failing cause now db hbcrypt draw u
  | sendEmail2FALoginOTP draw u =>
      exact writesAtomically_sendEmail2FALoginOTP s failing cause now db hbcrypt draw u
  | confirmEmail2FA u code => exact writesAtomically_confirmEmail2FA s failing cause now db u code
  | disableEmail2FA u => exact writesAtomically_disableEmail2FA s failing cause now db u

/-- Removing the flag of an earlier token fails. The new link is mailed, and dead. -/
def dbResetUsed : Db := Sample.db.setMeta Sample.alice.id .resetUsed (some textTrue)

theorem interrupted_dbResetUsed :
    Sample.service.Interrupted 3 0 dbResetUsed
      (.forgotPassword Sample.resetDraw Sample.alice.email) :=
  ⟨Sample.alice, by decide, .inr ⟨rfl, by simp [dbResetUsed]⟩⟩

theorem not_writesAtomically_dbResetUsed :
    ¬Sample.service.WritesAtomically 3 .unavailable 0 dbResetUsed
      (.forgotPassword Sample.resetDraw Sample.alice.email) := by
  intro hwrites
  exact (writesAtomically_iff Sample.service 3 .unavailable 0 dbResetUsed
    Reference.external_idealBcrypt _).mp hwrites interrupted_dbResetUsed

theorem not_forall_writesAtomically :
    ¬∀ (s : Service) (failing : Nat) (cause : CallError) (now : Nat) (db : Db)
      (writer : MetaWriter), s.lib.IdealBcrypt →
      s.WritesAtomically failing cause now db writer := by
  intro hatomic
  have hwrites := hatomic Sample.service 3 .unavailable 0 dbResetUsed
    (.forgotPassword Sample.resetDraw Sample.alice.email) Reference.external_idealBcrypt
  exact (writesAtomically_forgotPassword Sample.service 3 .unavailable 0 dbResetUsed
    Reference.external_idealBcrypt _ _).mp hwrites interrupted_dbResetUsed

end Skolva.Auth
