import Skolva.Auth.EndpointCalls
import Skolva.Auth.EmailLockout
import Skolva.Auth.TwoStepLogin
import Skolva.Auth.UnusedCodes

/-! # The lock of an account

After five wrong codes a factor is locked, and the message says that the account is.
TOTP and codes by email keep their locks apart, and a recovery code knows no lock.
-/

namespace Skolva.Auth

open Effect Time

inductive Factor where
  | totp
  | email
  deriving DecidableEq

/-- The request is a second step of a login. -/
def Request.CompletesLogin {Token : Type} : Request Token → Prop
  | .verify2FA .. | .recover2FA .. | .verifyEmail2FA .. => True
  | _ => False

variable {s : Service}

/-- The wrong TOTP codes compared for the user. -/
def Service.wrongTotpCodes (u : Uuid) (entries : List s.CallEntry) : Nat :=
  entries.countP (fun entry => Service.totpVerdict u entry = some .wrong)

/-- The latest of five wrong codes in a row for one factor of the user. Between the
first and the latest no code of this factor is correct. -/
def Service.LockingStreak (u : Uuid) (factor : Factor) (fifth : s.RequestEntry)
    (streak : List s.RequestEntry) : Prop :=
  match factor with
  | .totp =>
      (∃ call ∈ Service.callEntry fifth, Service.totpVerdict u call = some .wrong) ∧
      maxFailedAttempts ≤ Service.wrongTotpCodes u (Service.calls (fifth :: streak)) ∧
      ∀ call ∈ Service.calls streak, Service.totpVerdict u call ≠ some .accepted ∧
        Service.totpVerdict u call ≠ some .recovered
  | .email =>
      (∃ call ∈ Service.callEntry fifth, s.verdict u call = some false) ∧
      maxFailedAttempts ≤ Service.wrongCodes u (Service.calls (fifth :: streak)) ∧
      ∀ call ∈ Service.calls streak, s.verdict u call ≠ some true

/-- The way of the request past the lock of a factor: a recovery code, the other factor, a
TOTP code if the counter of the wrong ones has overrun since, or a code by email if a new one
has been issued since. -/
def Service.PassesBy (u : Uuid) (factor : Factor) (since : List s.RequestEntry) :
    Request s.lib.Token → Prop
  | .recover2FA .. => True
  | .verify2FA .. => factor = .email ∨ ∃ call ∈ Service.calls since, Service.Overruns u call
  | .verifyEmail2FA .. => factor = .totp ∨ ∃ call ∈ Service.calls since, s.Issues u call
  | _ => False

/-! ## What the calls of accepted codes find out -/

section Accepted

variable {now : Nat} {db : Db} {u : Uuid} {code : Bytes}

theorem emailComparison_of_accepts (haccepts : s.AcceptsEmailOTP db now u code) :
    s.emailComparison now db u code = some true := by
  obtain ⟨-, hash, hlive, hcompare⟩ := haccepts
  obtain ⟨active, hrun, hactive⟩ := Service.run_activeEmailOTP s now db u
  unfold Service.emailComparison
  rw [hrun, (hactive hash).mpr hlive]
  exact congrArg some hcompare

end Accepted

/-! ## The lock of TOTP -/

/-- Unless no code has been wrong, the enabled row has counted them. -/
def Db.CountsTotp (db : Db) (u : Uuid) (wrong : Nat) : Prop :=
  wrong = 0 ∨ ∃ row ∈ db.totp u, row.isEnabled = true ∧ wrong ≤ row.failedAttempts.toInt

theorem wrongTotpCodes_cons (u : Uuid) (entry : s.CallEntry) (entries : List s.CallEntry) :
    Service.wrongTotpCodes u (entry :: entries) = Service.wrongTotpCodes u entries +
      if Service.totpVerdict u entry = some .wrong then 1 else 0 := by
  simp [Service.wrongTotpCodes, List.countP_cons]

theorem countsTotp_step {u : Uuid} {entry : s.CallEntry}
    (hprocess : s.processCall entry.instant entry.request entry.before =
      (entry.reply, entry.after))
    (hverdict : Service.totpVerdict u entry ≠ some .accepted ∧
      Service.totpVerdict u entry ≠ some .recovered) (hfits : ¬Service.Overruns u entry)
    {wrong : Nat} (hcounts : entry.before.CountsTotp u wrong) :
    entry.after.CountsTotp u
      (wrong + if Service.totpVerdict u entry = some .wrong then 1 else 0) := by
  have heffect := totpEffect_processCall (u := u) hprocess
  unfold Db.CountsTotp at hcounts ⊢
  unfold Service.Overruns at hfits
  generalize entry.before.totp u = before at heffect hcounts hfits
  generalize entry.after.totp u = after at heffect ⊢
  generalize Service.totpVerdict u entry = verdict at heffect hverdict hfits
  cases heffect with
  | quiet => simpa using hcounts
  | setup hdisabled _ =>
      rcases hcounts with rfl | ⟨row, hrow, henabled, -⟩
      · simp
      · cases (hdisabled row hrow).symm.trans henabled
  | confirmed hdisabled _ _ =>
      rcases hcounts with rfl | ⟨row, hrow, henabled, -⟩
      · simp
      · obtain rfl := Option.some.inj hrow
        cases hdisabled.symm.trans henabled
  | accepted _ _ => exact absurd rfl hverdict.1
  | recovered _ _ => exact absurd rfl hverdict.2
  | @wrong row _ _ =>
      have hnegative : ¬row.failedAttempts < 0 := fun hlt => hfits ⟨rfl, row, rfl, .inl hlt⟩
      have hsucc := toInt_succ fun hmax => hfits ⟨rfl, row, rfl, .inr hmax⟩
      have hcount : wrong ≤ row.failedAttempts.toInt := by
        rcases hcounts with rfl | ⟨stored, hstored, -, hle⟩
        · rw [Int32.lt_iff_toInt_lt, Int32.toInt_zero] at hnegative
          exact Int.not_lt.mp hnegative
        · obtain rfl := Option.some.inj hstored
          exact hle
      rw [if_pos rfl]
      refine .inr ⟨_, rfl, rfl, ?_⟩
      rw [show (row.counted entry.instant).failedAttempts = row.failedAttempts + 1 from rfl, hsucc]
      push_cast
      omega

section Totp

variable {start last : Db} {u : Uuid}

theorem countsTotp_along {later earlier : List s.CallEntry}
    (hrun : s.CallRun start (later ++ earlier) last)
    (hlater : ∀ entry ∈ later, Service.totpVerdict u entry ≠ some .accepted ∧
      Service.totpVerdict u entry ≠ some .recovered)
    (hfits : ∀ entry ∈ later, ¬Service.Overruns u entry) :
    last.CountsTotp u (Service.wrongTotpCodes u later) := by
  apply Serial.along hrun rfl (motive := fun segment state =>
    state.CountsTotp u (Service.wrongTotpCodes u segment))
  · intro state _
    exact .inl rfl
  · intro segment entry hentry hprocess hcounts
    rw [wrongTotpCodes_cons]
    exact countsTotp_step hprocess (hlater entry hentry) (hfits entry hentry) hcounts

/-- The fifth wrong code in a row locks the row. -/
theorem totpLockedUntil_of_streak {fifth : s.CallEntry} {streak earlier : List s.CallEntry}
    (hrun : s.CallRun start (fifth :: (streak ++ earlier)) last)
    (hwrong : Service.totpVerdict u fifth = some .wrong)
    (hmax : maxFailedAttempts ≤ Service.wrongTotpCodes u (fifth :: streak))
    (hstreak : ∀ entry ∈ streak, Service.totpVerdict u entry ≠ some .accepted ∧
      Service.totpVerdict u entry ≠ some .recovered)
    (hfits : ∀ entry ∈ fifth :: streak, ¬Service.Overruns u entry) :
    last.TotpLockedUntil u (fifth.instant + lockoutDuration) := by
  rw [List.forall_mem_cons] at hfits
  cases hrun with
  | @cons _ before now request hhistory hadmissible =>
      have hcounts := countsTotp_along hhistory hstreak hfits.2
      rw [wrongTotpCodes_cons, if_pos hwrong] at hmax
      have heffect : TotpEffect now (some .wrong) (before.totp u)
          ((s.processCall now request before).2.totp u) :=
        hwrong ▸ totpEffect_processCall (s.processCall_entryAt now request before)
      have hbelow := fits_of_not_overruns hfits.1 hwrong
      unfold Db.CountsTotp at hcounts
      dsimp only at hbelow
      generalize before.totp u = old at heffect hcounts hbelow
      generalize hafter : (s.processCall now request before).2.totp u = after at heffect
      cases heffect with
      | @wrong row henabled hopen =>
          have hmax' : maxFailedAttempts ≤ (row.failedAttempts + 1).toInt := by
            rw [toInt_succ (hbelow row rfl)]
            rcases hcounts with hnone | ⟨stored, hstored, -, hle⟩
            · rw [hnone] at hmax
              exact absurd hmax (by decide)
            · obtain rfl := Option.some.inj hstored
              omega
          exact ⟨_, hafter, rfl, hmax', _, counted_lockedUntil hmax', Nat.le_refl _⟩

end Totp

theorem request_of_recovered {u : Uuid} {call : s.CallEntry}
    (hverdict : Service.totpVerdict u call = some .recovered) :
    ∃ code, call.request = .consumeRecoveryCode u code ∧ call.reply.isOk = true := by
  unfold Service.totpVerdict at hverdict
  split at hverdict
  next userID code hrequest =>
    split at hverdict <;> cases hverdict
  next userID code hrequest =>
    split at hverdict
    · obtain ⟨valid, -, hvalid⟩ := Option.map_eq_some_iff.mp hverdict
      cases valid <;> cases hvalid
    · cases hverdict
  next userID code hrequest =>
    split at hverdict
    · obtain ⟨valid, -, hvalid⟩ := Option.map_eq_some_iff.mp hverdict
      cases valid <;> cases hvalid
    · cases hverdict
  next userID code hrequest =>
    split at hverdict
    next hrecovered => exact ⟨code, by rw [hrequest, hrecovered.1], hrecovered.2⟩
    next => cases hverdict
  next => cases hverdict

/-- Only `Recover2FA` spends recovery codes. -/
theorem recover_of_callOf {now : Nat} {request : Request s.lib.Token} {u : Uuid} {code : Bytes}
    (hcall : s.callOf now request = some (.consumeRecoveryCode u code)) :
    ∃ jti req, request = .recover2FA jti (some req) ∧ s.PendingTokenFor now u req.tempToken ∧
      req.code = code := by
  cases request with
  | recover2FA jti body =>
      cases body with
      | none => cases hcall
      | some req =>
          obtain ⟨owner, hpending, howner⟩ := Option.map_eq_some_iff.mp hcall
          cases howner
          exact ⟨jti, req, rfl, pendingUser_eq_some.mp hpending, rfl⟩
  | _ => simp [Service.callOf, Option.bind_eq_some_iff] at hcall

/-! ## One request -/

section Request

variable {u : Uuid} {entry : s.RequestEntry}
  (hprocess : Handler.process s entry.instant entry.request entry.before =
    (entry.reply, entry.after))

include hprocess

theorem known_process (hknown : entry.before.Known u) : entry.after.Known u := by
  have huses : (Handler.handle s entry.request).Uses fun _ => True :=
    Program.uses_of_forall (fun _ => trivial) _
  have hafter := Program.run_preserves (serve s.lib) entry.instant huses
    (motive := fun db => db.Known u)
    (fun op _ _ hstore => Db.known_serve s.lib entry.instant op hstore) hknown
  have hstate : (Handler.process s entry.instant entry.request entry.before).2 = entry.after :=
    congrArg Prod.snd hprocess
  rw [← hstate]
  exact hafter

/-- A deleted user stays deleted. -/
theorem deleted_process (hknown : entry.before.Known u) (hdeleted : entry.before.liveUser u = none) :
    entry.after.liveUser u = none := by
  have huses : (Handler.handle s entry.request).Uses fun _ => True :=
    Program.uses_of_forall (fun _ => trivial) _
  have hafter := Program.run_preserves (serve s.lib) entry.instant huses
    (motive := fun db => db.Known u ∧ db.liveUser u = none)
    (fun op _ _ hstore => ⟨Db.known_serve s.lib entry.instant op hstore.1,
      Db.liveUser_serve_of_none s.lib entry.instant op hstore.1 hstore.2⟩)
    ⟨hknown, hdeleted⟩
  have hstate : (Handler.process s entry.instant entry.request entry.before).2 = entry.after :=
    congrArg Prod.snd hprocess
  rw [← hstate]
  exact hafter.2

/-- A request without a call changes nothing; otherwise its call is processed. -/
theorem after_of_callEntry :
    (Service.callEntry entry = none ∧ entry.after = entry.before) ∨
    ∃ call, Service.callEntry entry = some call ∧ call.instant = entry.instant ∧
      call.before = entry.before ∧ call.after = entry.after ∧
      s.callOf entry.instant entry.request = some call.request ∧
      s.processCall call.instant call.request call.before = (call.reply, call.after) := by
  have hafter : entry.after =
      s.stateAfter entry.instant entry.before (s.callOf entry.instant entry.request) := by
    rw [← state_process, hprocess]
  unfold Service.callEntry
  rw [hafter]
  cases hcall : s.callOf entry.instant entry.request with
  | none => exact .inl ⟨rfl, rfl⟩
  | some call => exact .inr ⟨_, rfl, rfl, rfl, rfl, rfl, rfl⟩

/-- The lock of the row holds on, or the account has been deleted. -/
theorem totpLock_step {unlock : Nat} (hknown : entry.before.Known u)
    (hlocked : entry.before.TotpLockedUntil u unlock ∨ entry.before.liveUser u = none)
    (hearly : entry.instant < unlock) (hafter : unlock ≤ entry.instant + lockoutDuration)
    (hrecover : (∃ jti body, entry.request = .recover2FA jti body) →
      ¬(s.SecondFactorPassed entry.instant entry.before u entry.request ∧
        (entry.before.liveUser u).isSome = true)) :
    entry.after.TotpLockedUntil u unlock ∨ entry.after.liveUser u = none := by
  rcases hlocked with hlocked | hdeleted
  · rcases after_of_callEntry hprocess with ⟨-, hsame⟩ |
      ⟨call, -, hinstant, hbefore, hstate, hcall, hserved⟩
    · rw [hsame]
      exact .inl hlocked
    · rw [← hinstant] at hearly hafter
      rw [← hbefore] at hlocked
      have haccepted : Service.totpVerdict u call ≠ some .accepted := fun hverdict =>
        absurd (unlock_le_of_totpVerdict hserved hlocked (.inl hverdict)) (Nat.not_le_of_lt hearly)
      by_cases hrecovered : Service.totpVerdict u call = some .recovered
      · -- A recovery code lifts the lock, so the account must be gone.
        obtain ⟨code, hrequest, hok⟩ := request_of_recovered hrecovered
        rw [hrequest] at hcall
        obtain ⟨jti, req, hendpoint, hpending, hcode⟩ := recover_of_callOf hcall
        have haccepts : s.AcceptsRecoveryCode entry.before u req.code := by
          rw [hcode, ← hbefore]
          exact (isOk_consume_iff hserved hrequest).mp hok
        have hpassed : s.SecondFactorPassed entry.instant entry.before u entry.request := by
          rw [hendpoint]
          exact ⟨hpending, haccepts⟩
        have hgone : entry.before.liveUser u = none := by
          by_contra hlive
          exact hrecover ⟨jti, _, hendpoint⟩ ⟨hpassed, Option.isSome_iff_ne_none.mpr hlive⟩
        exact .inr (deleted_process hprocess hknown hgone)
      · rw [← hstate]
        refine .inl (totpLockedUntil_step hserved hlocked hafter ⟨haccepted, hrecovered⟩ ?_)
        exact fun hwrong => absurd (unlock_le_of_totpVerdict hserved hlocked (.inr hwrong))
          (Nat.not_le_of_lt hearly)
  · exact .inr (deleted_process hprocess hknown hdeleted)

end Request

/-! ## Runs -/

section Run

variable {start last : Db} {u : Uuid}

theorem known_of_run {history : List s.RequestEntry} (hrun : s.RequestRun start history last)
    (hknown : start.Known u) : last.Known u :=
  Serial.invariant (motive := fun _ db => db.Known u) hrun hknown
    fun _ before now request _ hbefore _ => by
      let entry : s.RequestEntry := ⟨before, now, request, (Handler.process s now request before).1,
        (Handler.process s now request before).2⟩
      have hafter : entry.after.Known u := known_process rfl hbefore
      exact hafter

variable {fifth : s.RequestEntry} {newer older streak earlier : List s.RequestEntry}

/-- In the state after the streak the row is locked. -/
theorem totpLocked_of_streak (hrun : s.RequestRun start (fifth :: (streak ++ earlier)) last)
    (hstreak : Service.LockingStreak u .totp fifth streak)
    (hfits : ∀ call ∈ Service.calls (fifth :: streak), ¬Service.Overruns u call) :
    last.TotpLockedUntil u (fifth.instant + lockoutDuration) := by
  obtain ⟨⟨call, hcall, hwrong⟩, hmax, hbetween⟩ := hstreak
  have hcalls := callRun_of_requestRun hrun
  rw [calls_cons_of_some hcall, calls_append] at hcalls
  rw [calls_cons_of_some hcall] at hmax hfits
  rw [← instant_of_callEntry hcall]
  exact totpLockedUntil_of_streak hcalls hwrong hmax hbetween hfits

/-- As long as no recovery code is spent, and unless the counter has overrun, a locked TOTP
factor accepts no code. -/
theorem unlock_le_of_verify2FA {jti : Uuid} {body : Option (Verify2FARequest s.lib.Token)}
    {entry : s.RequestEntry}
    (hrun : s.RequestRun start (newer ++ entry :: (older ++ fifth :: (streak ++ earlier))) last)
    (hknown : start.Known u) (hstreak : Service.LockingStreak u .totp fifth streak)
    (hfits : ∀ call ∈ Service.calls (fifth :: streak), ¬Service.Overruns u call)
    (hrecover : ∀ between ∈ older, between.instant < truncate (fifth.instant + lockoutDuration) →
      (∃ jti body, between.request = .recover2FA jti body) →
      ¬(s.SecondFactorPassed between.instant between.before u between.request ∧
        (between.before.liveUser u).isSome = true))
    (hrequest : entry.request = .verify2FA jti body)
    (hpassed : s.SecondFactorPassed entry.instant entry.before u entry.request ∧
      (entry.before.liveUser u).isSome = true) :
    truncate (fifth.instant + lockoutDuration) ≤ entry.instant := by
  by_contra hearly
  obtain ⟨hbefore, -, -⟩ := Serial.entry hrun rfl
  have hinstants := Serial.instant_le hrun (fun _ _ _ hclock => hclock) rfl
  let unlock := truncate (fifth.instant + lockoutDuration)
  have hlocked : entry.before.Known u ∧
      (entry.before.TotpLockedUntil u unlock ∨ entry.before.liveUser u = none) := by
    apply Serial.along hbefore rfl (motive := fun _ state =>
      state.Known u ∧ (state.TotpLockedUntil u unlock ∨ state.liveUser u = none))
    · intro state hstate
      obtain ⟨row, hrow, henabled, hmax, instant, hinstant, hle⟩ :=
        totpLocked_of_streak hstate hstreak hfits
      exact ⟨known_of_run hstate hknown,
        .inl ⟨row, hrow, henabled, hmax, instant, hinstant, Nat.le_trans (truncate_le _) hle⟩⟩
    · intro _ between hbetween hprocess ⟨hthere, hstill⟩
      have hle := hinstants between (List.mem_append_left _ hbetween)
      have hlt : between.instant < unlock := Nat.lt_of_le_of_lt hle (Nat.lt_of_not_le hearly)
      obtain ⟨next, previous, hsplit⟩ := List.append_of_mem hbetween
      have hordered : fifth.instant ≤ between.instant := by
        have hrest : older ++ fifth :: (streak ++ earlier) =
            next ++ between :: (previous ++ fifth :: (streak ++ earlier)) := by
          rw [hsplit, List.append_assoc, List.cons_append]
        exact Serial.instant_le hbefore (fun _ _ _ hclock => hclock) hrest fifth (by simp)
      have hafter : unlock ≤ between.instant + lockoutDuration :=
        Nat.le_trans (truncate_le _) (Nat.add_le_add_right hordered _)
      exact ⟨known_process hprocess hthere,
        totpLock_step hprocess hthere hstill hlt hafter (hrecover between hbetween hlt)⟩
  obtain ⟨hpassed, hlive⟩ := hpassed
  rcases hlocked.2 with ⟨row, hrow, -, -, instant, hinstant, hle⟩ | hdeleted
  · rw [hrequest] at hpassed
    cases body with
    | none => exact hpassed
    | some req =>
        obtain ⟨-, stored, hstored, -, hopen, -⟩ := hpassed
        obtain rfl : row = stored := Option.some.inj (hrow.symm.trans hstored)
        exact hopen ⟨instant, hinstant, Nat.lt_of_lt_of_le (Nat.lt_of_not_le hearly) hle⟩
  · rw [hdeleted] at hlive
    cases hlive

/-- As long as no new code is issued, a locked factor by email accepts no code. -/
theorem unlock_le_of_verifyEmail2FA {jti : Uuid} {body : Option (Verify2FARequest s.lib.Token)}
    {entry : s.RequestEntry}
    (hrun : s.RequestRun start (newer ++ entry :: (older ++ fifth :: (streak ++ earlier))) last)
    (hstreak : Service.LockingStreak u .email fifth streak)
    (hissue : ∀ call ∈ Service.calls (older ++ fifth :: streak), ¬s.Issues u call)
    (hrequest : entry.request = .verifyEmail2FA jti body)
    (hpassed : s.SecondFactorPassed entry.instant entry.before u entry.request) :
    truncate (fifth.instant + lockoutDuration) ≤ entry.instant := by
  obtain ⟨⟨wrong, hwrong, hverdict⟩, hmax, hbetween⟩ := hstreak
  obtain ⟨state, hentry⟩ := Serial.earlier hrun rfl
  rw [hrequest] at hpassed
  cases body with
  | none => exact hpassed.elim
  | some req =>
      obtain ⟨hpending, haccepts⟩ := hpassed
      -- The call of the request compares the code.
      have hcall : Service.callEntry entry =
          some (s.entryAt entry.instant (.verifyEmail2FALogin u req.code) entry.before) := by
        unfold Service.callEntry Service.callOf
        rw [hrequest]
        simp [pendingUser_eq_some.mpr hpending]
      have hcompared : s.verdict u
          (s.entryAt entry.instant (.verifyEmail2FALogin u req.code) entry.before) =
            some true := by
        change (if u = u ∧ entry.before.usersMeta u .email2faEnabled = some textTrue then
          s.emailComparison entry.instant entry.before u req.code else none) = some true
        rw [if_pos ⟨rfl, haccepts.1⟩, emailComparison_of_accepts haccepts]
      have hcalls := callRun_of_requestRun hentry
      rw [calls_cons_of_some hcall, calls_append, calls_cons_of_some hwrong, calls_append,
        ← List.cons_append] at hcalls
      rw [calls_append, calls_cons_of_some hwrong] at hissue
      rw [calls_cons_of_some hwrong] at hmax
      have hguess : Service.Guesses u (Service.calls streak) := fun call hmem =>
        ⟨hbetween call hmem, hissue call (by simp [hmem])⟩
      have hlate := unlock_le_of_compared hcalls hverdict hmax hguess ?_ List.mem_cons_self
        (by rw [hcompared]; nofun)
      · rw [instant_of_callEntry hwrong] at hlate
        exact hlate
      · intro call hmem hissues
        rcases List.mem_cons.mp hmem with rfl | hmem
        · exact hissues.elim
        · exact absurd hissues (hissue call (by simp [hmem]))

/-- After five wrong codes in a row no request gets an access token as a second step
before the lock has run out, exactly if none passes it by. -/
theorem account_locked_iff {history later : List s.RequestEntry}
    (hrun : s.RequestRun start history last) (hknown : start.Known u) (factor : Factor)
    (hsplit : history = later ++ fifth :: (streak ++ earlier))
    (hstreak : Service.LockingStreak u factor fifth streak) :
    (∀ entry ∈ later, entry.instant < truncate (fifth.instant + lockoutDuration) →
      entry.request.CompletesLogin → ¬s.GrantsAccess entry.reply u) ↔
    ∀ newer entry older, later = newer ++ entry :: older →
      entry.instant < truncate (fifth.instant + lockoutDuration) →
      Service.PassesBy u factor (older ++ fifth :: streak) entry.request →
      ¬(s.SecondFactorPassed entry.instant entry.before u entry.request ∧
        (entry.before.liveUser u).isSome = true) := by
  have hgrants : ∀ {newer entry older}, later = newer ++ entry :: older →
      (s.GrantsAccess entry.reply u ↔ s.PasswordSuffices entry.before u entry.request ∨
        s.SecondFactorPassed entry.instant entry.before u entry.request ∧
          (entry.before.liveUser u).isSome = true) := by
    rintro newer entry older rfl
    obtain ⟨-, -, hprocess⟩ := Serial.entry hrun
      (hsplit.trans (List.append_assoc newer (entry :: older) (fifth :: (streak ++ earlier))))
    have hreply : (Handler.process s entry.instant entry.request entry.before).1 = entry.reply :=
      congrArg Prod.fst hprocess
    rw [← hreply, Handler.grantsAccess_process]
  constructor
  · rintro hrefused newer entry older hlater hearly hpasses hpassed
    have hcompletes : entry.request.CompletesLogin := by
      generalize entry.request = request at hpasses
      cases request <;> trivial
    have hmem : entry ∈ later := by simp [hlater]
    exact hrefused entry hmem hearly hcompletes ((hgrants hlater).mpr (.inr hpassed))
  · intro hpasses entry hentry hearly hcompletes haccess
    obtain ⟨newer, older, hlater⟩ := List.append_of_mem hentry
    have hwhole : s.RequestRun start
        (newer ++ entry :: (older ++ fifth :: (streak ++ earlier))) last := by
      rw [hsplit, hlater, List.append_assoc, List.cons_append] at hrun
      exact hrun
    have hpassed : s.SecondFactorPassed entry.instant entry.before u entry.request ∧
        (entry.before.liveUser u).isSome = true := by
      refine ((hgrants hlater).mp haccess).resolve_left fun hpassword => ?_
      generalize entry.request = request at hcompletes hpassword
      cases request <;> first | exact hcompletes | exact hpassword
    have hnot : ¬Service.PassesBy u factor (older ++ fifth :: streak) entry.request :=
      fun hby => hpasses newer entry older hlater hearly hby hpassed
    cases hrequest : entry.request with
    | recover2FA jti body => exact hnot (by rw [hrequest]; trivial)
    | verify2FA jti body =>
        rw [hrequest] at hnot
        simp only [Service.PassesBy, not_or, not_exists, not_and] at hnot
        have htotp : factor = .totp := by
          cases factor with
          | totp => rfl
          | email => exact absurd rfl hnot.1
        subst htotp
        have hfits : ∀ call ∈ Service.calls (fifth :: streak), ¬Service.Overruns u call := by
          intro call hcall
          refine hnot.2 call ?_
          rw [calls_append]
          exact List.mem_append_right _ hcall
        refine absurd (unlock_le_of_verify2FA hwhole hknown hstreak hfits ?_ hrequest hpassed)
          (Nat.not_le_of_lt hearly)
        intro between hbetween hbefore hrecovers
        obtain ⟨next, previous, hparts⟩ := List.append_of_mem hbetween
        refine hpasses (newer ++ entry :: next) between previous ?_ hbefore ?_
        · rw [hlater, hparts, List.append_assoc, List.cons_append]
        · obtain ⟨jti, body, hrecovery⟩ := hrecovers
          rw [hrecovery]
          trivial
    | verifyEmail2FA jti body =>
        rw [hrequest] at hnot
        simp only [Service.PassesBy, not_or, not_exists, not_and] at hnot
        have hemail : factor = .email := by
          cases factor with
          | totp => exact absurd rfl hnot.1
          | email => rfl
        subst hemail
        exact absurd (unlock_le_of_verifyEmail2FA hwhole hstreak hnot.2 hrequest hpassed.1)
          (Nat.not_le_of_lt hearly)
    | _ =>
        rw [hrequest] at hcompletes
        exact hcompletes

end Run

namespace Sample

def requestEntry (now : Nat) (request : Request service.lib.Token) (before : Db) :
    service.RequestEntry :=
  ⟨before, now, request, (Handler.process service now request before).1,
    (Handler.process service now request before).2⟩

/-- Alice has a pending token, and enters a code that is wrong. -/
def enterWrong (seconds : Nat) : Db → service.RequestEntry :=
  requestEntry (seconds * second) (.verify2FA 8 (some ⟨pendingToken, bytesOf "000000"⟩))

def enterWrong1 : service.RequestEntry := enterWrong 1001 dbIssued
def enterWrong2 : service.RequestEntry := enterWrong 1002 enterWrong1.after
def enterWrong3 : service.RequestEntry := enterWrong 1003 enterWrong2.after
def enterWrong4 : service.RequestEntry := enterWrong 1004 enterWrong3.after
def enterWrong5 : service.RequestEntry := enterWrong 1005 enterWrong4.after

/-- The code of her device, after the fifth wrong one. -/
def enterRight : service.RequestEntry :=
  let code := Reference.totpCode (String.ofList (Reference.hexDigits 16 0)) (1006 / 30)
  requestEntry (1006 * second) (.verify2FA 8 (some ⟨pendingToken, code⟩)) enterWrong5.after

/-- A recovery code at the same time. -/
def enterRecovery : service.RequestEntry :=
  requestEntry (1006 * second) (.recover2FA 8 (some ⟨pendingToken, spentCode⟩)) enterWrong5.after

theorem requestRun_next {start : Db} {latest : service.RequestEntry}
    {history : List service.RequestEntry}
    (hrun : service.RequestRun start (latest :: history) latest.after) (now : Nat)
    (request : Request service.lib.Token) (hclock : latest.instant ≤ now) :
    service.RequestRun start (requestEntry now request latest.after :: latest :: history)
      (requestEntry now request latest.after).after := by
  refine Serial.cons now request hrun fun entry hentry => ?_
  obtain rfl := Option.some.inj hentry
  exact hclock

theorem run_enterWrong5 : service.RequestRun dbIssued
    [enterWrong5, enterWrong4, enterWrong3, enterWrong2, enterWrong1] enterWrong5.after := by
  have hfirst : service.RequestRun dbIssued [enterWrong1] enterWrong1.after :=
    Serial.cons enterWrong1.instant enterWrong1.request Serial.nil
      fun _ hentry => absurd hentry (Option.not_mem_none _)
  have hsecond := requestRun_next hfirst enterWrong2.instant enterWrong2.request (by decide)
  have hthird := requestRun_next hsecond enterWrong3.instant enterWrong3.request (by decide)
  have hfourth := requestRun_next hthird enterWrong4.instant enterWrong4.request (by decide)
  exact requestRun_next hfourth enterWrong5.instant enterWrong5.request (by decide)

theorem known_dbIssued : dbIssued.Known alice.id := by
  unfold Db.Known
  decide +kernel

theorem lockingStreak_enterWrong : Service.LockingStreak alice.id .totp enterWrong5
    [enterWrong4, enterWrong3, enterWrong2, enterWrong1] := by
  refine ⟨⟨_, rfl, ?_⟩, ?_, ?_⟩
  · decide +kernel
  · decide +kernel
  · decide +kernel

theorem counts_enterWrong : ∀ call ∈ Service.calls
    [enterWrong5, enterWrong4, enterWrong3, enterWrong2, enterWrong1],
      ¬Service.Overruns alice.id call := by
  decide +kernel

/-- The right code is refused as well. -/
theorem enterRight_refused : ¬service.GrantsAccess enterRight.reply alice.id := by
  have hrun : service.RequestRun dbIssued
      [enterRight, enterWrong5, enterWrong4, enterWrong3, enterWrong2, enterWrong1]
      enterRight.after :=
    requestRun_next run_enterWrong5 enterRight.instant enterRight.request (by decide)
  have hsplit : [enterRight, enterWrong5, enterWrong4, enterWrong3, enterWrong2, enterWrong1] =
      [enterRight] ++
        enterWrong5 :: ([enterWrong4, enterWrong3, enterWrong2, enterWrong1] ++ []) := rfl
  refine (account_locked_iff hrun known_dbIssued .totp hsplit lockingStreak_enterWrong).mpr ?_
    enterRight (List.mem_singleton_self _) (by decide) trivial
  intro newer entry older hlater _ hpasses
  obtain ⟨rfl, hrest⟩ | ⟨newer, rfl, hrest⟩ := List.cons_eq_append_iff.mp hlater
  · obtain ⟨rfl, rfl⟩ := List.cons.inj hrest
    have hfits : ¬Service.PassesBy alice.id .totp
        ([] ++ enterWrong5 :: [enterWrong4, enterWrong3, enterWrong2, enterWrong1])
        enterRight.request := by
      rintro (hemail | ⟨call, hcall, hoverruns⟩)
      · cases hemail
      · exact counts_enterWrong call hcall hoverruns
    exact absurd hpasses hfits
  · cases newer <;> cases hrest

theorem run_enterRecovery : service.RequestRun dbIssued
    [enterRecovery, enterWrong5, enterWrong4, enterWrong3, enterWrong2, enterWrong1]
    enterRecovery.after :=
  requestRun_next run_enterWrong5 enterRecovery.instant enterRecovery.request (by decide)

theorem grantsAccess_enterRecovery : service.GrantsAccess enterRecovery.reply alice.id := by
  simp only [enterRecovery, requestEntry]
  rw [Handler.grantsAccess_process]
  refine Or.inr ⟨⟨?_, ?_⟩, by decide +kernel⟩
  · exact ⟨_, rfl, by decide, rfl, by decide⟩
  · refine (service.run_consumeRecoveryCode_ok (1006 * second) _ _ _).mp ?_
    rfl

end Sample

/-- One second after the fifth wrong code a recovery code is exchanged for an access token. -/
theorem not_forall_account_locked :
    ¬∀ (s : Service) (start last : Db) (history later streak earlier : List s.RequestEntry)
      (fifth : s.RequestEntry) (u : Uuid) (factor : Factor),
      s.RequestRun start history last → start.Known u →
      history = later ++ fifth :: (streak ++ earlier) →
      Service.LockingStreak u factor fifth streak →
      ∀ entry ∈ later, entry.instant < truncate (fifth.instant + lockoutDuration) →
        entry.request.CompletesLogin → ¬s.GrantsAccess entry.reply u := by
  intro hlocked
  exact hlocked Sample.service Sample.dbIssued _ _ [Sample.enterRecovery] _ [] Sample.enterWrong5
    Sample.alice.id .totp Sample.run_enterRecovery Sample.known_dbIssued rfl
    Sample.lockingStreak_enterWrong Sample.enterRecovery (List.mem_singleton_self _) (by decide)
    trivial Sample.grantsAccess_enterRecovery

end Skolva.Auth
