import Skolva.Auth.TotpSession
import Skolva.Auth.Login
import Mathlib.Data.Set.Card

/-! # Wrong TOTP codes under concurrency

A wrong code is counted in the row that was read before it was checked. The count
is right as long as no request reads the row while another one is about to write, and the
counter is below the greatest `int32`.
-/

namespace Skolva.Auth

open Effect

/-- The row is locked from the fifth failed attempt on. -/
def UserTotpSecret.LockConsistent (row : UserTotpSecret) : Prop :=
  row.lockedUntil = none ↔ row.failedAttempts.toInt < maxFailedAttempts

variable {s : Service} {Thread : Type} [DecidableEq Thread]

/-- The next call of the thread writes the row. -/
def Service.Writing (u : Uuid) (pool : s.CallPool Thread) (thread : Thread) : Prop :=
  ∃ params next, pool.program thread = .call (.upsertTOTPSecret u params) next

/-- The request has failed for a wrong code, or is about to count it. Of the writes of
`Verify2FA` only the one after a valid code has an instant of use. -/
def Service.WrongEvaluated (u : Uuid) (pool : s.CallPool Thread) (thread : Thread) : Prop :=
  pool.program thread = .done (.error (.unauthorized "invalid TOTP code")) ∨
    ∃ params next, pool.program thread = .call (.upsertTOTPSecret u params) next ∧
      params.lastUsedAt = none

variable (s)

/-- A request reads the row only while no request is about to write it, and while one more
wrong code can be counted. -/
def Service.ReadsAlone (u : Uuid) (pool : s.CallPool Thread) (_ : Thread) (op : Op) : Prop :=
  op = .getTOTPSecret u → (∀ other, ¬Service.Writing u pool other) ∧
    ∀ current ∈ pool.store.totp u, current.failedAttempts ≠ Int32.maxValue

/-- No wrong code is lost, counted from this row on. -/
structure Service.AttemptsCounted (u : Uuid) (request : Thread → ServiceCall)
    (row : UserTotpSecret) (pool : s.CallPool Thread) : Prop where
  /-- Once all requests have failed, the counter has grown by the number of wrong codes. -/
  counted : (∀ thread, ∃ outcome, pool.program thread = .done outcome) →
    (∀ thread, pool.program thread ≠ .done (.ok .done)) →
    ∃ current ∈ pool.store.totp u, current.failedAttempts.toInt =
      row.failedAttempts.toInt + {thread | Service.WrongEvaluated u pool thread}.ncard
  /-- Five wrong codes at most are evaluated before the row is locked. -/
  bounded : row.lockedUntil = none → (∀ thread, pool.program thread ≠ .done (.ok .done)) →
    ∀ current ∈ pool.store.totp u, current.lockedUntil = none →
      row.failedAttempts.toInt + {thread | Service.WrongEvaluated u pool thread}.ncard ≤
        maxFailedAttempts
  /-- No write is late, and only an accepted code lowers the counter or clears the lock. -/
  timely : ∀ thread params next, pool.program thread = .call (.upsertTOTPSecret u params) next →
    ∃ current ∈ pool.store.totp u, (s.sessions u request pool thread).read = some (.ok current) ∧
      (params.failedAttempts < current.failedAttempts ∨
        current.lockedUntil ≠ none ∧ params.lockedUntil = none →
        ∃ code, request thread = .verify2FA u code ∧ s.CodeFits current code)

/-- The requests have taken turns so far, and this row is stored. -/
structure Service.TakeTurns (u : Uuid) (request : Thread → ServiceCall) (row : UserTotpSecret)
    (pool : s.CallPool Thread) (current : UserTotpSecret) : Prop where
  stored : pool.store.totp u = some current
  consistent : current.LockConsistent
  alone : ∀ one other, Service.Writing u pool one → Service.Writing u pool other → one = other
  copied : ∀ thread, Service.Writing u pool thread →
    (s.sessions u request pool thread).read = some (.ok current)
  fits : ∀ thread, Service.Writing u pool thread → current.failedAttempts ≠ Int32.maxValue
  counted : (∃ thread, pool.program thread = .done (.ok .done)) ∨
    current.failedAttempts.toInt = row.failedAttempts.toInt +
      {thread | pool.program thread = .done (.error (.unauthorized "invalid TOTP code"))}.ncard

variable {s} {u : Uuid} {request : Thread → ServiceCall} {row current : UserTotpSecret}
  {pool : s.CallPool Thread}

/-! ## What `Verify2FA` writes -/

omit [DecidableEq Thread] in
theorem isTotp_of_verify (hrequests : ∀ thread, ∃ code, request thread = .verify2FA u code)
    (thread : Thread) : (request thread).IsTotp u := by
  obtain ⟨code, hrequest⟩ := hrequests thread
  rw [hrequest]
  exact rfl

/-- Every row that a request writes is locked from the fifth failed attempt on. -/
theorem lockConsistent_of_writes {request : ServiceCall} {read : Except CallError UserTotpSecret}
    {params : UpsertTOTPSecretParams} (hwrites : s.Writes u request read params) (now : Nat)
    (existing : Option UserTotpSecret) : (params.row now existing).LockConsistent := by
  have hfresh : (none : Option Nat) = none ↔ (0 : Int32).toInt < maxFailedAttempts := by decide
  cases hwrites with
  | setup => exact hfresh
  | confirm => exact hfresh
  | accept => exact hfresh
  | reject _ code row lock hrequest henabled hlock => exact hlock
  | consume => exact hfresh

theorem verify_writes {code : Bytes} {copy : UserTotpSecret} {params : UpsertTOTPSecretParams}
    (hwrites : s.Writes u (.verify2FA u code) (.ok copy) params) :
    (s.CodeFits copy code ∧ params.lastUsedAt ≠ none) ∨
      (params.lastUsedAt = none ∧ params.failedAttempts = copy.failedAttempts + 1 ∧
        (params.lockedUntil = none ↔ params.failedAttempts.toInt < maxFailedAttempts)) := by
  cases hwrites with
  | accept _ given _ now hrequest henabled hcode =>
      obtain ⟨-, rfl⟩ := hrequest
      exact .inl ⟨hcode, Option.some_ne_none now⟩
  | reject _ given _ lock hrequest henabled hlock => exact .inr ⟨rfl, rfl, hlock⟩

/-- The next call of `Verify2FA` is its look-up or its write. -/
theorem verify_next {code : Bytes} {session : TotpSession} {op : Op}
    (hallowed : (s.totpSession u (.verify2FA u code)).allowed session op) :
    (op = .getTOTPSecret u ∧ session.read = none ∧ session.wrote = none) ∨
      ∃ params copy, op = .upsertTOTPSecret u params ∧ session.wrote = none ∧
        session.read = some (.ok copy) ∧ s.Writes u (.verify2FA u code) (.ok copy) params := by
  cases op with
  | getTOTPSecret userID =>
      obtain ⟨rfl, hread, hwrote⟩ := hallowed
      exact .inl ⟨rfl, hread, hwrote⟩
  | getUserByID id =>
      obtain ⟨⟨draw, hrequest⟩, -⟩ := hallowed
      exact nomatch hrequest
  | upsertTOTPSecret userID params =>
      obtain ⟨rfl, hwrote, read, hread, hwrites⟩ := hallowed
      obtain ⟨copy, rfl⟩ : ∃ copy, read = .ok copy := by cases hwrites <;> exact ⟨_, rfl⟩
      exact .inr ⟨params, copy, rfl, hwrote, hread, hwrites⟩
  | deleteTOTPSecret userID =>
      obtain ⟨-, -, given, copy, hrequest, -⟩ := hallowed
      exact nomatch hrequest
  | _ => exact hallowed.elim

section Settled

variable {code : Bytes} {session : TotpSession} {program : Prog s.Outcome}
  (hfollows : program.Follows (s.totpSession u (.verify2FA u code))
    (s.TotpEnds u (.verify2FA u code)) session)
  (hsettled : (∃ outcome, program = .done outcome) ∨ ∃ op next, program = .call op next)

include hfollows hsettled

/-- After its look-up `Verify2FA` is refused, or it is about to write. -/
theorem verify_after_read {read : Except CallError UserTotpSecret}
    (hread : session.read = some read) (hwrote : session.wrote = none) :
    (∃ outcome, program = .done outcome ∧ outcome ≠ .ok .done ∧
      outcome ≠ .error (.unauthorized "invalid TOTP code")) ∨
      ∃ params next, program = .call (.upsertTOTPSecret u params) next := by
  rcases hsettled with ⟨outcome, rfl⟩ | ⟨op, next, rfl⟩
  · obtain ⟨result, hends, rfl⟩ := hfollows.verified code rfl
    obtain ⟨hrefused, hcounted⟩ := hends.refused hwrote
    refine .inl ⟨_, rfl, ?_, ?_⟩
    · cases result with
      | error err => exact nofun
      | ok value => exact absurd rfl hrefused
    · cases result with
      | error err => exact fun herr => hcounted (congrArg Except.error (Except.error.inj herr))
      | ok value => exact nofun
  · rcases verify_next hfollows.1 with ⟨-, hnone, -⟩ | ⟨params, copy, rfl, -⟩
    · exact nomatch hread.symm.trans hnone
    · exact .inr ⟨params, next, rfl⟩

/-- After its write `Verify2FA` is done. -/
theorem verify_after_write {params : UpsertTOTPSecretParams} {read : Except CallError UserTotpSecret}
    (hread : session.read = some read) (hwrote : session.wrote = some params) :
    program = .done (if params.lastUsedAt = none then
      .error (.unauthorized "invalid TOTP code") else .ok .done) := by
  rcases hsettled with ⟨outcome, rfl⟩ | ⟨op, next, rfl⟩
  · obtain ⟨result, hends, rfl⟩ := hfollows.verified code rfl
    rw [hends.checked params hwrote]
    split <;> rfl
  · rcases verify_next hfollows.1 with ⟨-, hnone, -⟩ | ⟨params', copy, -, hnone, -⟩
    · exact nomatch hread.symm.trans hnone
    · exact nomatch hwrote.symm.trans hnone

end Settled

/-! ## One step -/

section Step

variable {start : Db} {thread : Thread} {now : Nat} {readings : Nat → Nat} {op : Op}
  {next : op.Resp → Prog s.Outcome}

theorem writing_other {other : Thread} (hother : other ≠ thread) :
    Service.Writing u (pool.advance (serve s.lib) thread now readings op next) other ↔
      Service.Writing u pool other := by
  unfold Service.Writing
  rw [Pool.advance_program_other _ _ _ _ _ _ hother]

/-- Reading alone makes a request the only one that may be about to write. -/
theorem takeTurns_read {next : (Op.getTOTPSecret u).Resp → Prog s.Outcome}
    (hturns : s.TakeTurns u request row pool current)
    (hidle : ∀ other, ¬Service.Writing u pool other)
    (hfits : current.failedAttempts ≠ Int32.maxValue)
    (hprogram : pool.program thread = .call (.getTOTPSecret u) next)
    (hafter : (∃ outcome, (next (one (pool.store.totp u))).settle readings = .done outcome ∧
        outcome ≠ .ok .done ∧ outcome ≠ .error (.unauthorized "invalid TOTP code")) ∨
      ∃ params rest, (next (one (pool.store.totp u))).settle readings =
        .call (.upsertTOTPSecret u params) rest) :
    s.TakeTurns u request row
      (pool.advance (serve s.lib) thread now readings (.getTOTPSecret u) next) current := by
  let pool' := pool.advance (serve s.lib) thread now readings (.getTOTPSecret u) next
  have hself : pool'.program thread = (next (one (pool.store.totp u))).settle readings :=
    Pool.advance_program_self ..
  -- Nobody else is about to write, so the copy just read stays the stored row.
  have howner : ∀ other, Service.Writing u pool' other → other = thread := by
    intro other hwriting
    by_contra hother
    exact hidle other ((writing_other hother).mp hwriting)
  have hsame : ∀ outcome : s.Outcome,
      (outcome = .ok .done ∨ outcome = .error (.unauthorized "invalid TOTP code")) →
      ∀ other, pool'.program other = .done outcome ↔ pool.program other = .done outcome := by
    intro outcome houtcome other
    by_cases hother : other = thread
    · subst hother
      rw [hself, hprogram]
      refine ⟨fun hdone => ?_, nofun⟩
      rcases hafter with ⟨refused, hrefused, hok, hcounted⟩ | ⟨params, rest, hwrite⟩
      · obtain rfl := Program.done.inj (hrefused.symm.trans hdone)
        exact (houtcome.elim hok hcounted).elim
      · exact nomatch hwrite.symm.trans hdone
    · rw [Pool.advance_program_other _ _ _ _ _ _ hother]
  refine ⟨hturns.stored, hturns.consistent, ?_, ?_, fun _ _ => hfits, ?_⟩
  · intro one other hone hother
    rw [howner one hone, howner other hother]
  · intro other hwriting
    obtain rfl := howner other hwriting
    rw [Service.sessions_advance, Function.update_self]
    exact congrArg (fun read => some (one read)) hturns.stored
  · rcases hturns.counted with ⟨other, hok⟩ | hcount
    · exact .inl ⟨other, (hsame _ (.inl rfl) other).mpr hok⟩
    · refine .inr (hcount.trans ?_)
      have hset : {other | pool'.program other =
          .done (.error (.unauthorized "invalid TOTP code"))} =
          {other | pool.program other = .done (.error (.unauthorized "invalid TOTP code"))} :=
        Set.ext fun other => hsame _ (.inr rfl) other
      rw [hset]

/-- The write of the only request about to write counts its code. -/
theorem takeTurns_write [Finite Thread] {params : UpsertTOTPSecretParams} {code : Bytes}
    {next : (Op.upsertTOTPSecret u params).Resp → Prog s.Outcome}
    (hturns : s.TakeTurns u request row pool current)
    (hprogram : pool.program thread = .call (.upsertTOTPSecret u params) next)
    (hwrites : s.Writes u (.verify2FA u code) (.ok current) params)
    (hafter : (next (.ok ())).settle readings =
      .done (if params.lastUsedAt = none then .error (.unauthorized "invalid TOTP code")
        else .ok .done)) :
    s.TakeTurns u request row
      (pool.advance (serve s.lib) thread now readings (.upsertTOTPSecret u params) next)
      (params.row now (some current)) := by
  let pool' := pool.advance (serve s.lib) thread now readings (.upsertTOTPSecret u params) next
  have hself : pool'.program thread = .done (if params.lastUsedAt = none then
      .error (.unauthorized "invalid TOTP code") else .ok .done) :=
    (Pool.advance_program_self ..).trans hafter
  -- The writer is done, and it was the only one.
  have hidle : ∀ other, ¬Service.Writing u pool' other := by
    intro other hwriting
    by_cases hother : other = thread
    · subst hother
      obtain ⟨params', next', hnext⟩ := hwriting
      exact nomatch hself.symm.trans hnext
    · exact hother (hturns.alone other thread ((writing_other hother).mp hwriting)
        ⟨params, next, hprogram⟩)
  refine ⟨?_, ?_, fun _ other hone => (hidle _ hone).elim, fun _ hone => (hidle _ hone).elim,
    fun _ hone => (hidle _ hone).elim, ?_⟩
  · rw [← hturns.stored]
    exact Db.setTotp_self ..
  · exact lockConsistent_of_writes hwrites now (some current)
  · rcases verify_writes hwrites with ⟨-, hused⟩ | ⟨hunused, hfailed, -⟩
    · rw [if_neg hused] at hself
      exact .inl ⟨thread, hself⟩
    · rw [if_pos hunused] at hself
      rcases hturns.counted with ⟨other, hok⟩ | hcount
      · have hother : other ≠ thread := by
          rintro rfl
          exact nomatch hprogram.symm.trans hok
        exact .inl ⟨other, (Pool.advance_program_other _ _ _ _ _ _ hother).trans hok⟩
      · have hset : {other | pool'.program other =
            .done (.error (.unauthorized "invalid TOTP code"))} = insert thread
            {other | pool.program other = .done (.error (.unauthorized "invalid TOTP code"))} := by
          ext other
          by_cases hother : other = thread
          · subst hother
            exact ⟨fun _ => Set.mem_insert other _, fun _ => hself⟩
          · have hprogram' : pool'.program other = pool.program other :=
              Pool.advance_program_other _ _ _ _ _ _ hother
            simp [hprogram', hother]
        have hnew : thread ∉
            {other | pool.program other = .done (.error (.unauthorized "invalid TOTP code"))} :=
          fun hdone => nomatch hprogram.symm.trans hdone
        refine .inr ?_
        have hsucc := toInt_succ (hturns.fits thread ⟨params, next, hprogram⟩)
        have hwritten : (params.row now (some current)).failedAttempts.toInt =
            current.failedAttempts.toInt + 1 := by
          rw [← hsucc, ← hfailed]
          rfl
        rw [hset, Set.ncard_insert_of_notMem hnew (Set.toFinite _), hwritten, hcount]
        push_cast
        omega

theorem takeTurns_advance [Finite Thread]
    (hrequests : ∀ thread, ∃ code, request thread = .verify2FA u code)
    (hreach : Pool.Reaches (serve s.lib) (s.ReadsAlone u) (s.startPool start request) pool)
    (hturns : s.TakeTurns u request row pool current)
    (hprogram : pool.program thread = .call op next) (halone : s.ReadsAlone u pool thread op) :
    ∃ current', s.TakeTurns u request row
      (pool.advance (serve s.lib) thread now readings op next) current' := by
  obtain ⟨code, hrequest⟩ := hrequests thread
  have hfollows := Service.totp_follows (isTotp_of_verify hrequests) hreach thread
  rw [hprogram, hrequest] at hfollows
  rcases verify_next hfollows.1 with ⟨rfl, hread, hwrote⟩ | ⟨params, copy, rfl, hwrote, hread, hwrites⟩
  · obtain ⟨hidle, hfits⟩ := halone rfl
    refine ⟨current, takeTurns_read hturns hidle (hfits current hturns.stored) hprogram ?_⟩
    exact verify_after_read ((hfollows.2 (one (pool.store.totp u))).settle readings)
      (Program.settle_cases _ _) rfl hwrote
  · have hcopied := hturns.copied thread ⟨params, next, hprogram⟩
    obtain rfl : copy = current := Except.ok.inj (Option.some.inj (hread.symm.trans hcopied))
    refine ⟨_, takeTurns_write hturns hprogram hwrites ?_⟩
    exact verify_after_write ((hfollows.2 (.ok ())).settle readings) (Program.settle_cases _ _)
      hread rfl

end Step

/-! ## Runs -/

section Run

variable {start : Db} {last : s.CallPool Thread} [Finite Thread]

theorem takeTurns_of_reaches (hrow : start.totp u = some row) (hconsistent : row.LockConsistent)
    (hrequests : ∀ thread, ∃ code, request thread = .verify2FA u code)
    (hreach : Pool.Reaches (serve s.lib) (s.ReadsAlone u) (s.startPool start request) last) :
    ∃ current, s.TakeTurns u request row last current := by
  apply hreach.invariant (motive := fun pool => ∃ current, s.TakeTurns u request row pool current)
  · have hcall : ∀ thread, ∃ next,
        (s.startPool start request).program thread = .call (.getTOTPSecret u) next := by
      intro thread
      obtain ⟨code, hrequest⟩ := hrequests thread
      have hprogram : (s.startPool start request).program thread = s.call (request thread) := rfl
      rw [hprogram, hrequest]
      exact ⟨_, rfl⟩
    have hidle : ∀ thread, ¬Service.Writing u (s.startPool start request) thread := by
      rintro thread ⟨params, next, hwrite⟩
      obtain ⟨rest, hread⟩ := hcall thread
      exact nomatch hread.symm.trans hwrite
    refine ⟨row, hrow, hconsistent, fun one _ hone => (hidle one hone).elim,
      fun thread hwrite => (hidle thread hwrite).elim,
      fun thread hwrite => (hidle thread hwrite).elim, .inr ?_⟩
    have hnone : {thread | (s.startPool start request).program thread =
        .done (.error (.unauthorized "invalid TOTP code"))} = ∅ := by
      ext thread
      obtain ⟨rest, hread⟩ := hcall thread
      simp [hread]
    rw [hnone, Set.ncard_empty]
    simp
  · rintro pool thread now readings op next hpool ⟨current, hturns⟩ hprogram halone
    exact takeTurns_advance hrequests hpool hturns hprogram halone

theorem wrongEvaluated_le (hturns : s.TakeTurns u request row last current) :
    {thread | Service.WrongEvaluated u last thread}.ncard ≤
      {thread | last.program thread =
        .done (.error (.unauthorized "invalid TOTP code"))}.ncard + 1 := by
  let counted := {thread | last.program thread = .done (.error (.unauthorized "invalid TOTP code"))}
  by_cases hwriting : ∃ writer, Service.Writing u last writer
  · obtain ⟨writer, hwriter⟩ := hwriting
    have hsubset : {thread | Service.WrongEvaluated u last thread} ⊆ insert writer counted := by
      rintro thread (hdone | ⟨params, next, hwrite, -⟩)
      · exact .inr hdone
      · exact .inl (hturns.alone thread writer ⟨params, next, hwrite⟩ hwriter)
    exact (Set.ncard_le_ncard hsubset (Set.toFinite _)).trans (Set.ncard_insert_le writer counted)
  · have hsubset : {thread | Service.WrongEvaluated u last thread} ⊆ counted := by
      rintro thread (hdone | ⟨params, next, hwrite, -⟩)
      · exact hdone
      · exact absurd ⟨thread, params, next, hwrite⟩ hwriting
    exact (Set.ncard_le_ncard hsubset (Set.toFinite _)).trans (Nat.le_succ _)

/-- If requests read the row only while none is about to write it, and the counter does not
wrap, no wrong code is lost. -/
theorem attempts_counted (hrow : start.totp u = some row) (hconsistent : row.LockConsistent)
    (hrequests : ∀ thread, ∃ code, request thread = .verify2FA u code)
    (hreach : Pool.Reaches (serve s.lib) (s.ReadsAlone u) (s.startPool start request) last) :
    s.AttemptsCounted u request row last := by
  obtain ⟨current, hturns⟩ := takeTurns_of_reaches hrow hconsistent hrequests hreach
  have hcount : (∀ thread, last.program thread ≠ .done (.ok .done)) →
      current.failedAttempts.toInt = row.failedAttempts.toInt + {thread | last.program thread =
        .done (.error (.unauthorized "invalid TOTP code"))}.ncard :=
    fun hfailed => hturns.counted.resolve_left fun ⟨thread, hok⟩ => hfailed thread hok
  refine ⟨fun hdone hfailed => ⟨current, hturns.stored, ?_⟩, fun _ hfailed stored hstored hopen => ?_,
    fun thread params next hprogram => ?_⟩
  · have hset : {thread | Service.WrongEvaluated u last thread} =
        {thread | last.program thread = .done (.error (.unauthorized "invalid TOTP code"))} := by
      ext thread
      refine ⟨?_, .inl⟩
      rintro (hcounted | ⟨params, next, hwrite, -⟩)
      · exact hcounted
      · obtain ⟨outcome, houtcome⟩ := hdone thread
        exact nomatch houtcome.symm.trans hwrite
    rw [hset]
    exact hcount hfailed
  · -- Without a lock the counter is below five, and at most one code is not yet counted.
    obtain rfl : current = stored := Option.some.inj (hturns.stored.symm.trans hstored)
    have hbelow : current.failedAttempts.toInt < maxFailedAttempts := hturns.consistent.mp hopen
    have hwrong := wrongEvaluated_le hturns
    rw [hcount hfailed] at hbelow
    omega
  · have hread := hturns.copied thread ⟨params, next, hprogram⟩
    refine ⟨current, hturns.stored, hread, fun hlower => ?_⟩
    obtain ⟨code, hrequest⟩ := hrequests thread
    have hfollows := Service.totp_follows (isTotp_of_verify hrequests) hreach thread
    rw [hprogram, hrequest] at hfollows
    obtain ⟨-, -, read, hread', hwrites⟩ := hfollows.1
    obtain rfl : read = .ok current := Option.some.inj (hread'.symm.trans hread)
    rcases verify_writes hwrites with ⟨hcode, -⟩ | ⟨-, hfailed, hlock⟩
    · exact ⟨code, hrequest, hcode⟩
    · exfalso
      have hsucc := toInt_succ (hturns.fits thread ⟨params, next, hprogram⟩)
      rw [← hfailed] at hsucc
      rcases hlower with hless | ⟨hlocked, hcleared⟩
      · rw [Int32.lt_iff_toInt_lt] at hless
        omega
      · have hbelow : current.failedAttempts.toInt < maxFailedAttempts := by
          have hnext := hlock.mp hcleared
          omega
        exact hlocked (hturns.consistent.mpr hbelow)

end Run

namespace Sample

theorem lockConsistent_totpRow : totpRow.LockConsistent := by
  unfold UserTotpSecret.LockConsistent
  decide

def wrongCode : Bytes := bytesOf "000000"

/-- Two requests with a wrong code. -/
def guessTwice : service.CallPool Bool :=
  service.startPool dbWithTotp fun _ => .verify2FA alice.id wrongCode

def guessTwiceRead : service.CallPool Bool := guessTwice.next (serve service.lib) true 1

def guessTwiceWritten : service.CallPool Bool := guessTwiceRead.next (serve service.lib) true 2

def guessTwiceReadAgain : service.CallPool Bool :=
  guessTwiceWritten.next (serve service.lib) false 3

/-- The second request starts after the first one is done. -/
def guessTwiceDone : service.CallPool Bool := guessTwiceReadAgain.next (serve service.lib) false 4

theorem reaches_guessTwiceDone :
    Pool.Reaches (serve service.lib) (service.ReadsAlone alice.id) guessTwice guessTwiceDone := by
  have hidle : ∀ thread, ¬Service.Writing alice.id guessTwice thread := by
    rintro thread ⟨params, next, hwrite⟩
    exact nomatch hwrite
  have hwritten : ∀ thread, ¬Service.Writing alice.id guessTwiceWritten thread := by
    rintro thread ⟨params, next, hwrite⟩
    cases thread <;> exact nomatch hwrite
  have hupsert : ∀ (pool : service.CallPool Bool) (thread : Bool) (params resume op rest),
      pool.program thread = .call (.upsertTOTPSecret alice.id params) resume →
      pool.program thread = .call op rest → service.ReadsAlone alice.id pool thread op := by
    rintro pool thread params resume op rest hnext hprogram rfl
    exact nomatch hnext.symm.trans hprogram
  have hfirst : Pool.Reaches (serve service.lib) (service.ReadsAlone alice.id) guessTwice
      guessTwiceRead :=
    Pool.Reaches.next .refl true 1 fun _ _ _ _ => ⟨hidle, by decide +kernel⟩
  have hsecond : Pool.Reaches (serve service.lib) (service.ReadsAlone alice.id) guessTwice
      guessTwiceWritten :=
    hfirst.next true 2 fun op rest hprogram => hupsert _ _ _ _ op rest rfl hprogram
  have hthird : Pool.Reaches (serve service.lib) (service.ReadsAlone alice.id) guessTwice
      guessTwiceReadAgain :=
    hsecond.next false 3 fun _ _ _ _ => ⟨hwritten, by decide +kernel⟩
  exact hthird.next false 4 fun op rest hprogram => hupsert _ _ _ _ op rest rfl hprogram

theorem attempts_counted_guessTwiceDone :
    service.AttemptsCounted alice.id (fun _ => .verify2FA alice.id wrongCode) totpRow
      guessTwiceDone :=
  attempts_counted rfl lockConsistent_totpRow (fun _ => ⟨wrongCode, rfl⟩) reaches_guessTwiceDone

/-- Both requests read before one of them writes. -/
def guessTwiceRaced : service.CallPool Bool :=
  guessTwice.schedule (serve service.lib) [(true, 1), (false, 2), (true, 3), (false, 4)]

theorem guessTwiceRaced_rejected (thread : Bool) :
    guessTwiceRaced.program thread = .done (.error (.unauthorized "invalid TOTP code")) := by
  cases thread <;> rfl

end Sample

/-- Two wrong codes are evaluated, and the counter grows by one. -/
theorem not_forall_attempts_counted :
    ¬∀ (s : Service) (start : Db) (u : Uuid) (row : UserTotpSecret) (request : Bool → ServiceCall)
      (last : s.CallPool Bool), start.totp u = some row → row.LockConsistent →
      (∀ thread, ∃ code, request thread = .verify2FA u code) →
      Pool.Reaches (serve s.lib) (fun _ _ _ => True) (s.startPool start request) last →
      s.AttemptsCounted u request row last := by
  intro hcounted
  have hreach : Pool.Reaches (serve Sample.service.lib) (fun _ _ _ => True) Sample.guessTwice
      Sample.guessTwiceRaced :=
    Pool.Reaches.schedule .refl (fun _ _ _ => trivial) _
  obtain ⟨current, hcurrent, hcount⟩ := (hcounted Sample.service Sample.dbWithTotp Sample.alice.id
    Sample.totpRow (fun _ => .verify2FA Sample.alice.id Sample.wrongCode) Sample.guessTwiceRaced rfl
    Sample.lockConsistent_totpRow (fun _ => ⟨Sample.wrongCode, rfl⟩) hreach).counted
    (fun thread => ⟨_, Sample.guessTwiceRaced_rejected thread⟩)
    fun thread hok => nomatch (Sample.guessTwiceRaced_rejected thread).symm.trans hok
  have hall : {thread | Service.WrongEvaluated Sample.alice.id Sample.guessTwiceRaced thread} =
      Set.univ :=
    Set.eq_univ_of_forall fun thread => .inl (Sample.guessTwiceRaced_rejected thread)
  have hfailed : current.failedAttempts.toInt = 1 := by
    rw [← Option.some.inj hcurrent]
    rfl
  rw [hall, Set.ncard_univ, Nat.card_eq_fintype_card, Fintype.card_bool, hfailed] at hcount
  exact absurd hcount (by decide)

end Skolva.Auth
