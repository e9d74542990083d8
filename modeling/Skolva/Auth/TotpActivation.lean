import Skolva.Auth.TotpSession
import Skolva.Auth.Login

/-! # Switching TOTP on and off under concurrency

Every write of the row carries the secret and the switch that were read before. They
are the stored ones as long as no other request has changed them in between.
-/

namespace Skolva.Auth

open Effect

variable {s : Service} {Thread : Type} [DecidableEq Thread]

/-- The calls since the look-up of the thread. -/
def sinceRead (u : Uuid) (thread : Thread) : List (CallEvent Thread) → List (CallEvent Thread)
  | [] => []
  | event :: earlier =>
      if event.thread = thread ∧ event.op = .getTOTPSecret u then []
      else event :: sinceRead u thread earlier

/-- The call leaves the secret and the switch of this copy in place. -/
def Op.KeepsActivation (copy : Except CallError UserTotpSecret) : Op → Prop
  | .upsertTOTPSecret _ params => ∃ row, copy = .ok row ∧
      params.secretEncrypted = row.secretEncrypted ∧ params.isEnabled = row.isEnabled
  | .deleteTOTPSecret _ => False
  | _ => True

/-- The secret of a row and whether it is active. -/
def UserTotpSecret.activation (row : UserTotpSecret) : String × Bool :=
  (row.secretEncrypted, row.isEnabled)

variable (s)

/-- Since the thread has read the row nobody has deleted it or written another secret or
switch. -/
def Service.ActivationKept (u : Uuid) (request : Thread → ServiceCall) (pool : s.CallPool Thread)
    (thread : Thread) : Prop :=
  ∀ copy, (s.sessions u request pool thread).read = some copy →
    ∀ event ∈ sinceRead u thread pool.trace, event.op.KeepsActivation copy

/-- A request writes only what still belongs to the stored secret and switch. -/
def Service.WritesInTime (u : Uuid) (request : Thread → ServiceCall) (pool : s.CallPool Thread)
    (thread : Thread) (op : Op) : Prop :=
  ∀ params, op = .upsertTOTPSecret u params → s.ActivationKept u request pool thread

/-- TOTP is switched on by a confirmation and off by a verified deletion only. -/
structure Service.ActivationGuarded (u : Uuid) (request : Thread → ServiceCall)
    (allowed : s.CallPool Thread → Thread → Op → Prop) (pool : s.CallPool Thread) : Prop where
  /-- The next call can switch TOTP off only by deleting the row after an accepted code. -/
  switchedOff : ∀ thread op next now, pool.program thread = .call op next →
    allowed pool thread op → pool.store.TotpEnabled u →
    ¬(serve s.lib now op pool.store).2.TotpEnabled u →
    op = .deleteTOTPSecret u ∧ ∃ code copy, request thread = .disable2FA u code ∧
      (s.sessions u request pool thread).read = some (.ok copy) ∧ copy.isEnabled = true ∧
      s.CodeFits copy code
  /-- The next call can switch TOTP on only by confirming the stored secret. -/
  switchedOn : ∀ thread op next now, pool.program thread = .call op next →
    allowed pool thread op → ¬pool.store.TotpEnabled u →
    (serve s.lib now op pool.store).2.TotpEnabled u →
    ∃ params code, op = .upsertTOTPSecret u params ∧ request thread = .confirm2FA u code ∧
      ∃ current ∈ pool.store.totp u, params.secretEncrypted = current.secretEncrypted ∧
        s.CodeFits current code
  /-- A `Disable2FA` that has returned success has deleted the row. -/
  deleted : ∀ thread code, request thread = .disable2FA u code →
    pool.program thread = .done (.ok .done) →
    ∃ event ∈ pool.trace, event.thread = thread ∧ event.op = .deleteTOTPSecret u
  /-- After a deletion the row is absent while nothing is written. -/
  absent : ∀ later delete earlier, pool.trace = later ++ delete :: earlier →
    delete.op = .deleteTOTPSecret u →
    (∀ event ∈ later, ∀ params, event.op ≠ .upsertTOTPSecret u params) →
    pool.store.totp u = none
  /-- The first write after a deletion is that of a `Setup2FA` that has started after it. -/
  rewritten : ∀ later write quiet delete earlier params,
    pool.trace = later ++ write :: (quiet ++ delete :: earlier) →
    write.op = .upsertTOTPSecret u params → delete.op = .deleteTOTPSecret u →
    (∀ event ∈ quiet, ∀ params, event.op ≠ .upsertTOTPSecret u params) →
    (∃ draw, request write.thread = .setup2FA draw u) ∧
      ∀ event ∈ delete :: earlier, event.thread ≠ write.thread

variable {s} {u : Uuid} {request : Thread → ServiceCall} {start : Db}
  {allowed : s.CallPool Thread → Thread → Op → Prop} {pool last : s.CallPool Thread}

/-- Either the event lies after the look-up of the thread, or the look-up after it. -/
theorem mem_sinceRead_or {thread : Thread} {event : CallEvent Thread}
    (hevent : event.op ≠ .getTOTPSecret u) (quiet earlier : List (CallEvent Thread)) :
    event ∈ sinceRead u thread (quiet ++ event :: earlier) ∨
      ∃ newer read older, quiet = newer ++ read :: older ∧ read.thread = thread ∧
        read.op = .getTOTPSecret u := by
  induction quiet with
  | nil =>
      left
      rw [List.nil_append, sinceRead, if_neg fun hread => hevent hread.2]
      exact List.mem_cons_self
  | cons latest quiet ih =>
      by_cases hread : latest.thread = thread ∧ latest.op = .getTOTPSecret u
      · exact .inr ⟨[], latest, quiet, rfl, hread⟩
      · rcases ih with hmem | ⟨newer, read, older, rfl, hread⟩
        · left
          rw [List.cons_append, sinceRead, if_neg hread]
          exact List.mem_cons_of_mem _ hmem
        · exact .inr ⟨latest :: newer, read, older, rfl, hread⟩

section Run

variable (hrequests : ∀ thread, (request thread).IsTotp u)
  (hreach : Pool.Reaches (serve s.lib) allowed (s.startPool start request) last)

include hrequests hreach

/-- A request that has not read the row has not made any call. -/
theorem not_called_of_unread (thread : Thread)
    (hread : (s.sessions u request last thread).read = none) :
    ∀ event ∈ last.trace, event.thread ≠ thread := by
  revert thread
  apply hreach.invariant (motive := fun pool => ∀ thread,
    (s.sessions u request pool thread).read = none → ∀ event ∈ pool.trace, event.thread ≠ thread)
  · exact fun _ _ event hevent => absurd hevent List.not_mem_nil
  · intro pool caller now readings op next hpool hbefore hprogram _ thread hread event hevent
    have hmove := Service.totp_moves hrequests hpool hprogram now
    rw [Service.sessions_advance] at hread
    by_cases hcaller : thread = caller
    · subst hcaller
      rw [Function.update_self] at hread
      generalize (s.sessions u request pool thread).after op _ = session at hread hmove
      generalize (serve s.lib now op pool.store).2.totp u = row at hmove
      cases hmove with
      | read => exact nomatch hread
      | lookUp id draw hrequest hsome => exact absurd hread hsome
      | write params now copy hwrote hsome => exact nomatch hsome.symm.trans hread
      | delete code copy hrequest hwrote hsome => exact nomatch hsome.symm.trans hread
    · rw [Function.update_of_ne hcaller] at hread
      rcases List.mem_cons.mp hevent with rfl | hevent
      · exact Ne.symm hcaller
      · exact hbefore thread hread event hevent

theorem delete_mem_of_deleted (thread : Thread)
    (hdeleted : (s.sessions u request last thread).deleted = true) :
    ∃ event ∈ last.trace, event.thread = thread ∧ event.op = .deleteTOTPSecret u := by
  revert thread
  apply hreach.invariant (motive := fun pool => ∀ thread,
    (s.sessions u request pool thread).deleted = true →
      ∃ event ∈ pool.trace, event.thread = thread ∧ event.op = .deleteTOTPSecret u)
  · exact fun _ hdeleted => nomatch hdeleted
  · intro pool caller now readings op next hpool hbefore hprogram _ thread hdeleted
    have hearlier : (s.sessions u request pool thread).deleted = true →
        ∃ event ∈ (pool.advance (serve s.lib) caller now readings op next).trace,
          event.thread = thread ∧ event.op = .deleteTOTPSecret u := by
      intro hpoolDeleted
      obtain ⟨event, hevent, hthread⟩ := hbefore thread hpoolDeleted
      exact ⟨event, List.mem_cons_of_mem _ hevent, hthread⟩
    have hmove := Service.totp_moves hrequests hpool hprogram now
    rw [Service.sessions_advance] at hdeleted
    by_cases hcaller : thread = caller
    · subst hcaller
      rw [Function.update_self] at hdeleted
      generalize (s.sessions u request pool thread).after op _ = session at hdeleted hmove
      generalize (serve s.lib now op pool.store).2.totp u = row at hmove
      cases hmove with
      | read => exact hearlier hdeleted
      | lookUp => exact hearlier hdeleted
      | write => exact hearlier hdeleted
      | delete => exact ⟨_, List.mem_cons_self, rfl, rfl⟩
    · rw [Function.update_of_ne hcaller] at hdeleted
      exact hearlier hdeleted

/-- While nobody changes secret and switch, the stored ones are those of the copy. -/
theorem activation_of_kept (thread : Thread) (copy : Except CallError UserTotpSecret)
    (hread : (s.sessions u request last thread).read = some copy)
    (hkept : ∀ event ∈ sinceRead u thread last.trace, event.op.KeepsActivation copy) :
    (last.store.totp u).map UserTotpSecret.activation =
      copy.toOption.map UserTotpSecret.activation := by
  revert thread copy
  apply hreach.invariant (motive := fun pool => ∀ thread copy,
    (s.sessions u request pool thread).read = some copy →
    (∀ event ∈ sinceRead u thread pool.trace, event.op.KeepsActivation copy) →
    (pool.store.totp u).map UserTotpSecret.activation =
      copy.toOption.map UserTotpSecret.activation)
  · exact fun _ _ hread => nomatch hread
  · intro pool caller now readings op next hpool hbefore hprogram _ thread copy hread hkept
    have hmove := Service.totp_moves hrequests hpool hprogram now
    rw [Service.sessions_advance] at hread
    rw [Pool.advance_trace, sinceRead] at hkept
    rw [Pool.advance_store]
    -- The look-up of the thread copies the row; any later call must keep the copy.
    by_cases hown : caller = thread ∧ op = .getTOTPSecret u
    · obtain ⟨rfl, rfl⟩ := hown
      rw [Function.update_self] at hread
      obtain rfl : one (pool.store.totp u) = copy := Option.some.inj hread
      change (pool.store.totp u).map _ = _
      cases pool.store.totp u <;> rfl
    · rw [if_neg hown] at hkept
      have hlatest : op.KeepsActivation copy := hkept _ List.mem_cons_self
      have hsame : (s.sessions u request pool thread).read = some copy := by
        by_cases hcaller : thread = caller
        · subst hcaller
          rw [Function.update_self] at hread
          generalize (s.sessions u request pool thread).after op _ = session at hread hmove
          generalize (serve s.lib now op pool.store).2.totp u = row at hmove
          cases hmove with
          | read => exact absurd ⟨rfl, rfl⟩ hown
          | lookUp => exact hread
          | write => exact hread
          | delete => exact hread
        · rwa [Function.update_of_ne hcaller] at hread
      have hstored := hbefore thread copy hsame fun event hevent =>
        hkept event (List.mem_cons_of_mem _ hevent)
      generalize (s.sessions u request pool caller).after op _ = session at hmove
      generalize (serve s.lib now op pool.store).2.totp u = row at hmove ⊢
      cases hmove with
      | read => exact hstored
      | lookUp => exact hstored
      | write params written =>
          obtain ⟨copied, rfl, hsecret, henabled⟩ := hlatest
          exact congrArg some (Prod.ext hsecret henabled)
      | delete => exact hlatest.elim

theorem absent_after_delete {earlier : List (CallEvent Thread)} {delete : CallEvent Thread}
    (hdelete : delete.op = .deleteTOTPSecret u) (later : List (CallEvent Thread))
    (hsplit : last.trace = later ++ delete :: earlier)
    (hquiet : ∀ event ∈ later, ∀ params, event.op ≠ .upsertTOTPSecret u params) :
    last.store.totp u = none := by
  revert later
  apply hreach.invariant (motive := fun pool => ∀ later : List (CallEvent Thread),
    pool.trace = later ++ delete :: earlier →
    (∀ event ∈ later, ∀ params, event.op ≠ .upsertTOTPSecret u params) →
    pool.store.totp u = none)
  · intro later hsplit
    exact absurd (congrArg List.length hsplit) (by simp [Service.startPool, Pool.start])
  · intro pool caller now readings op next hpool hbefore hprogram _ later hsplit hquiet
    have hmove := Service.totp_moves hrequests hpool hprogram now
    rw [Pool.advance_store]
    cases later with
    | nil =>
        obtain ⟨rfl, -⟩ := List.cons.inj hsplit
        obtain rfl : op = .deleteTOTPSecret u := hdelete
        exact Db.setTotp_self ..
    | cons latest later =>
        obtain ⟨rfl, hrest⟩ := List.cons.inj hsplit
        have habsent := hbefore later hrest fun event hevent =>
          hquiet event (List.mem_cons_of_mem _ hevent)
        generalize (s.sessions u request pool caller).after op _ = session at hmove
        generalize (serve s.lib now op pool.store).2.totp u = row at hmove ⊢
        cases hmove with
        | read => exact habsent
        | lookUp => exact habsent
        | write params => exact absurd rfl (hquiet _ List.mem_cons_self params)
        | delete => rfl

end Run

section Guarded

variable (hrequests : ∀ thread, (request thread).IsTotp u)
  (hreach : Pool.Reaches (serve s.lib) (s.WritesInTime u request) (s.startPool start request) last)

include hrequests hreach

/-- A write in time belongs to a copy with the stored secret and switch. -/
theorem activation_of_write {thread : Thread} {params : UpsertTOTPSecretParams}
    {next : (Op.upsertTOTPSecret u params).Resp → Prog s.Outcome}
    (hprogram : last.program thread = .call (.upsertTOTPSecret u params) next)
    (hintime : s.WritesInTime u request last thread (.upsertTOTPSecret u params)) :
    ∃ copy, (s.sessions u request last thread).read = some copy ∧
      s.Writes u (request thread) copy params ∧
      (last.store.totp u).map UserTotpSecret.activation =
        copy.toOption.map UserTotpSecret.activation := by
  have hfollows := Service.totp_follows hrequests hreach thread
  rw [hprogram] at hfollows
  obtain ⟨-, -, copy, hread, hwrites⟩ := hfollows.1
  exact ⟨copy, hread, hwrites, activation_of_kept hrequests hreach thread copy hread
    (hintime params rfl copy hread)⟩

omit hrequests hreach in
theorem totpEnabled_iff_copy {db : Db} {copy : Except CallError UserTotpSecret}
    (hactivation : (db.totp u).map UserTotpSecret.activation =
      copy.toOption.map UserTotpSecret.activation) :
    db.TotpEnabled u ↔ (valueOr .zero copy).isEnabled = true := by
  unfold Db.TotpEnabled
  cases hrow : db.totp u with
  | none =>
      rw [hrow] at hactivation
      cases copy with
      | error cause => simp [UserTotpSecret.zero]
      | ok row => cases hactivation
  | some current =>
      rw [hrow] at hactivation
      cases copy with
      | error cause => cases hactivation
      | ok row =>
          have hsame : current.isEnabled = row.isEnabled :=
            congrArg Prod.snd (Option.some.inj hactivation)
          simp [hsame]

omit hrequests hreach in
/-- A write that switches TOTP on or off is a set-up or a confirmation. -/
theorem writes_activation {given : ServiceCall} {copy : Except CallError UserTotpSecret}
    {params : UpsertTOTPSecretParams} (hwrites : s.Writes u given copy params) :
    ((valueOr .zero copy).isEnabled = false ∧ params.isEnabled = false ∧
        ∃ draw, given = .setup2FA draw u) ∨
      ((valueOr .zero copy).isEnabled = false ∧ ∃ row code, copy = .ok row ∧
        given = .confirm2FA u code ∧ params.secretEncrypted = row.secretEncrypted ∧
        s.CodeFits row code) ∨
      ((valueOr .zero copy).isEnabled = true ∧ params.isEnabled = true) := by
  cases hwrites with
  | setup draw copy encrypted hashes hdisabled => exact .inl ⟨hdisabled, rfl, draw, rfl⟩
  | confirm code row now hdisabled hcode =>
      exact .inr (.inl ⟨hdisabled, row, code, rfl, rfl, rfl, hcode⟩)
  | accept _ code row now hrequest henabled => exact .inr (.inr ⟨henabled, rfl⟩)
  | reject _ code row lock hrequest henabled => exact .inr (.inr ⟨henabled, rfl⟩)
  | consume code row found hash henabled => exact .inr (.inr ⟨henabled, rfl⟩)

theorem delete_of_switchedOff {thread : Thread} {op : Op} {next : op.Resp → Prog s.Outcome}
    {now : Nat} (hprogram : last.program thread = .call op next)
    (hintime : s.WritesInTime u request last thread op) (henabled : last.store.TotpEnabled u)
    (hdisabled : ¬(serve s.lib now op last.store).2.TotpEnabled u) :
    op = .deleteTOTPSecret u ∧ ∃ code copy, request thread = .disable2FA u code ∧
      (s.sessions u request last thread).read = some (.ok copy) ∧ copy.isEnabled = true ∧
      s.CodeFits copy code := by
  have hmove := Service.totp_moves hrequests hreach hprogram now
  unfold Db.TotpEnabled at hdisabled
  generalize (s.sessions u request last thread).after op _ = session at hmove
  generalize (serve s.lib now op last.store).2.totp u = row at hmove hdisabled
  cases hmove with
  | read => exact absurd henabled hdisabled
  | lookUp => exact absurd henabled hdisabled
  | delete code copy hrequest hwrote hread hcopy hcode =>
      exact ⟨rfl, code, copy, hrequest, hread, hcopy, hcode⟩
  | write params written =>
      obtain ⟨copy, -, hwrites, hactivation⟩ :=
        activation_of_write hrequests hreach hprogram hintime
      have hcopy := (totpEnabled_iff_copy hactivation).mp henabled
      rcases writes_activation hwrites with ⟨hoff, -⟩ | ⟨hoff, -⟩ | ⟨-, hon⟩
      · exact nomatch hcopy.symm.trans hoff
      · exact nomatch hcopy.symm.trans hoff
      · exact absurd ⟨_, rfl, hon⟩ hdisabled

theorem confirm_of_switchedOn {thread : Thread} {op : Op} {next : op.Resp → Prog s.Outcome}
    {now : Nat} (hprogram : last.program thread = .call op next)
    (hintime : s.WritesInTime u request last thread op) (hdisabled : ¬last.store.TotpEnabled u)
    (henabled : (serve s.lib now op last.store).2.TotpEnabled u) :
    ∃ params code, op = .upsertTOTPSecret u params ∧ request thread = .confirm2FA u code ∧
      ∃ current ∈ last.store.totp u, params.secretEncrypted = current.secretEncrypted ∧
        s.CodeFits current code := by
  have hmove := Service.totp_moves hrequests hreach hprogram now
  unfold Db.TotpEnabled at henabled
  generalize (s.sessions u request last thread).after op _ = session at hmove
  generalize (serve s.lib now op last.store).2.totp u = row at hmove henabled
  cases hmove with
  | read => exact absurd henabled hdisabled
  | lookUp => exact absurd henabled hdisabled
  | delete => exact absurd henabled (by simp)
  | write params written =>
      obtain ⟨copy, -, hwrites, hactivation⟩ :=
        activation_of_write hrequests hreach hprogram hintime
      obtain ⟨stored, hstored, hon⟩ := henabled
      obtain rfl := Option.some.inj hstored
      rcases writes_activation hwrites with ⟨-, hoff, -⟩ | ⟨-, confirmed, code, rfl, hrequest, hsecret, hcode⟩ | ⟨hcopy, -⟩
      · exact nomatch hon.symm.trans hoff
      · obtain ⟨current, hcurrent, hsame⟩ := Option.map_eq_some_iff.mp hactivation
        have hkept : current.secretEncrypted = confirmed.secretEncrypted := congrArg Prod.fst hsame
        refine ⟨params, code, rfl, hrequest, current, hcurrent, hsecret.trans hkept.symm, ?_⟩
        unfold Service.CodeFits
        rw [hkept]
        exact hcode
      · exact absurd ((totpEnabled_iff_copy hactivation).mpr hcopy) hdisabled

/-- If requests write only while nobody has changed secret or switch since they have read
them, TOTP is switched on by a confirmation and off by a verified deletion only. -/
theorem activation_guarded :
    s.ActivationGuarded u request (s.WritesInTime u request) last where
  switchedOff thread op next now hprogram hintime henabled hdisabled :=
    delete_of_switchedOff hrequests hreach hprogram hintime henabled hdisabled
  switchedOn thread op next now hprogram hintime hdisabled henabled :=
    confirm_of_switchedOn hrequests hreach hprogram hintime hdisabled henabled
  deleted thread code hrequest hok := by
    have hfollows := Service.totp_follows hrequests hreach thread
    rw [hok] at hfollows
    exact delete_mem_of_deleted hrequests hreach thread
      (hfollows.deleted code .done hrequest rfl)
  absent later delete earlier hsplit hdelete hquiet :=
    absent_after_delete hrequests hreach hdelete later hsplit hquiet
  rewritten later write quiet delete earlier params hsplit hwrite hdelete hquiet := by
    obtain ⟨pool, next, hpool, htrace, hprogram, hintime, -⟩ := hreach.called rfl hsplit
    obtain ⟨thread, instant, op, resp⟩ := write
    obtain rfl : op = .upsertTOTPSecret u params := hwrite
    have habsent := absent_after_delete hrequests hpool hdelete quiet htrace hquiet
    obtain ⟨copy, hread, hwrites, hactivation⟩ :=
      activation_of_write hrequests hpool hprogram hintime
    have hsetup : ∃ draw, request thread = .setup2FA draw u := by
      rw [habsent] at hactivation
      rcases writes_activation hwrites with ⟨-, -, hsetup⟩ | ⟨-, row, code, rfl, -⟩ | ⟨hcopy, -⟩
      · exact hsetup
      · exact nomatch hactivation
      · cases copy with
        | error cause => exact nomatch hcopy
        | ok row => exact nomatch hactivation
    refine ⟨hsetup, ?_⟩
    have hnotRead : delete.op ≠ .getTOTPSecret u := by
      rw [hdelete]
      exact nofun
    -- Had the writer read the row before the deletion, it would not write in time.
    rcases mem_sinceRead_or hnotRead quiet earlier with
      hmem | ⟨newer, read, older, rfl, hreader, hreadOp⟩
    · have hkept := hintime params rfl copy hread delete (htrace ▸ hmem)
      rw [hdelete] at hkept
      exact hkept.elim
    · have hreadSplit : pool.trace = newer ++ read :: (older ++ delete :: earlier) := by
        rw [htrace, List.append_assoc, List.cons_append]
      obtain ⟨poolRead, nextRead, hpoolRead, htraceRead, hprogramRead, -⟩ :=
        hpool.called rfl hreadSplit
      have hfollows := Service.totp_follows hrequests hpoolRead thread
      obtain ⟨reader, readAt, readOp, answer⟩ := read
      obtain rfl : reader = thread := hreader
      obtain rfl : readOp = .getTOTPSecret u := hreadOp
      rw [hprogramRead] at hfollows
      have hunread := not_called_of_unread hrequests hpoolRead reader hfollows.1.2.1
      intro event hevent
      exact hunread event (htraceRead ▸ List.mem_append_right _ hevent)

end Guarded

namespace Sample

def validCode : Bytes := Reference.totpCode totpSecret 0

/-- One request with a valid code verifies it, the other one disables TOTP with it. -/
def verifyOrDisable (disables : Bool) : ServiceCall :=
  if disables then .disable2FA alice.id validCode else .verify2FA alice.id validCode

theorem isTotp_verifyOrDisable (disables : Bool) : (verifyOrDisable disables).IsTotp alice.id := by
  cases disables <;> rfl

def verifyAndDisable : service.CallPool Bool := service.startPool dbWithTotp verifyOrDisable

/-- The verification is done before TOTP is disabled. -/
def disabledLast : service.CallPool Bool :=
  verifyAndDisable.schedule (serve service.lib)
    [(false, 0), (false, 1), (true, 2), (true, 3), (true, 4)]

theorem reaches_disabledLast :
    Pool.Reaches (serve service.lib) (service.WritesInTime alice.id verifyOrDisable)
      verifyAndDisable disabledLast := by
  have hother : ∀ (pool : service.CallPool Bool) (thread : Bool) (op called : Op) (rest resume),
      pool.program thread = .call called resume → pool.program thread = .call op rest →
      (∀ params, called ≠ .upsertTOTPSecret alice.id params) →
      service.WritesInTime alice.id verifyOrDisable pool thread op := by
    rintro pool thread op called rest resume hnext hprogram hcalled params rfl
    obtain ⟨rfl, -⟩ := Program.call.inj (hnext.symm.trans hprogram)
    exact absurd rfl (hcalled params)
  have hlatest : ∀ (pool : service.CallPool Bool) (thread : Bool) (op : Op),
      sinceRead alice.id thread pool.trace = [] →
      service.WritesInTime alice.id verifyOrDisable pool thread op := by
    intro pool thread op hnone params _ copy _ event hevent
    rw [hnone] at hevent
    exact absurd hevent List.not_mem_nil
  have hstart : Pool.Reaches (serve service.lib)
      (service.WritesInTime alice.id verifyOrDisable) verifyAndDisable verifyAndDisable := .refl
  have hverified : Pool.Reaches (serve service.lib)
      (service.WritesInTime alice.id verifyOrDisable) verifyAndDisable
      (verifyAndDisable.schedule (serve service.lib) [(false, 0), (false, 1)]) :=
    (hstart.next false 0 fun op rest hprogram =>
      hother _ _ op _ rest _ rfl hprogram fun _ => nofun).next false 1 fun op _ _ =>
        hlatest _ _ op rfl
  have hwritten : Pool.Reaches (serve service.lib)
      (service.WritesInTime alice.id verifyOrDisable) verifyAndDisable
      (verifyAndDisable.schedule (serve service.lib)
        [(false, 0), (false, 1), (true, 2), (true, 3)]) :=
    (hverified.next true 2 fun op rest hprogram =>
      hother _ _ op _ rest _ rfl hprogram fun _ => nofun).next true 3 fun op _ _ =>
        hlatest _ _ op rfl
  exact hwritten.next true 4 fun op rest hprogram =>
    hother _ _ op _ rest _ rfl hprogram fun _ => nofun

theorem activation_guarded_disabledLast :
    service.ActivationGuarded alice.id verifyOrDisable
      (service.WritesInTime alice.id verifyOrDisable) disabledLast :=
  activation_guarded isTotp_verifyOrDisable reaches_disabledLast

/-- The verification has read the row before it is deleted. -/
def disabledFirst : service.CallPool Bool :=
  verifyAndDisable.schedule (serve service.lib) [(false, 0), (true, 1), (true, 2), (true, 3)]

end Sample

/-- A late verification switches TOTP on again. -/
theorem not_forall_activation_guarded :
    ¬∀ (s : Service) (start : Db) (u : Uuid) (request : Bool → ServiceCall)
      (last : s.CallPool Bool), (∀ thread, (request thread).IsTotp u) →
      Pool.Reaches (serve s.lib) (fun _ _ _ => True) (s.startPool start request) last →
      s.ActivationGuarded u request (fun _ _ _ => True) last := by
  intro hguarded
  have hreach : Pool.Reaches (serve Sample.service.lib) (fun _ _ _ => True) Sample.verifyAndDisable
      Sample.disabledFirst :=
    Pool.Reaches.schedule .refl (fun _ _ _ => trivial) _
  have hlast := hguarded Sample.service Sample.dbWithTotp Sample.alice.id Sample.verifyOrDisable
    Sample.disabledFirst Sample.isTotp_verifyOrDisable hreach
  have habsent : ¬Sample.disabledFirst.store.TotpEnabled Sample.alice.id := by
    rintro ⟨row, hrow, -⟩
    exact nomatch hrow
  obtain ⟨params, code, -, hrequest, -⟩ :=
    hlast.switchedOn false _ _ 4 rfl trivial habsent ⟨_, rfl, rfl⟩
  exact nomatch hrequest

end Skolva.Auth
