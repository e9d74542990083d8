import Skolva.Auth.TotpActivation
import Skolva.Auth.UnusedCodes

/-! # The fields a TOTP call changes

`UpsertTOTPSecret` writes every column of the row. A call has to copy each field that
it means to keep from the row it has read.
-/

namespace Skolva.Auth

open Effect Time

/-! ## Rows that differ in a few fields -/

namespace UserTotpSecret

/-- The rows differ in the attempts, the lock and the time of the write only. -/
def SameButAttempts (before after : UserTotpSecret) : Prop :=
  after = { before with
    failedAttempts := after.failedAttempts
    lockedUntil := after.lockedUntil
    updatedAt := after.updatedAt }

/-- The rows differ in the time of the last code besides. -/
def SameButUse (before after : UserTotpSecret) : Prop :=
  after = { before with
    lastUsedAt := after.lastUsedAt
    failedAttempts := after.failedAttempts
    lockedUntil := after.lockedUntil
    updatedAt := after.updatedAt }

/-- The rows differ in the recovery codes besides. -/
def SameButCodes (before after : UserTotpSecret) : Prop :=
  after = { before with
    recoveryCodesHash := after.recoveryCodesHash
    failedAttempts := after.failedAttempts
    lockedUntil := after.lockedUntil
    updatedAt := after.updatedAt }

variable {row : UserTotpSecret}

theorem sameButUse_used (henabled : row.isEnabled = true) (now : Nat) :
    row.SameButUse (row.used now) := by
  unfold SameButUse
  cases row
  cases henabled
  rfl

/-- A counted row has lost the time of the last code. -/
theorem sameButAttempts_counted_iff (henabled : row.isEnabled = true) (now : Nat) :
    row.SameButAttempts (row.counted now) ↔ row.lastUsedAt = none := by
  unfold SameButAttempts
  constructor
  · intro hsame
    exact (congrArg lastUsedAt hsame).symm
  · intro hunused
    cases row
    cases henabled
    cases hunused
    rfl

/-- So has a row with a spent recovery code. -/
theorem sameButCodes_spent_iff (henabled : row.isEnabled = true) (found now : Nat) :
    row.SameButCodes (row.spent found now) ↔ row.lastUsedAt = none := by
  unfold SameButCodes
  constructor
  · intro hsame
    exact (congrArg lastUsedAt hsame).symm
  · intro hunused
    cases row
    cases henabled
    cases hunused
    rfl

end UserTotpSecret

variable {s : Service}

/-! ## The fields of one call -/

/-- A call of the user changes none but its own fields in the row. -/
def Service.KeepsRow (row : UserTotpSecret) (u : Uuid) (entry : s.CallEntry) : Prop :=
  match entry.request with
  | .verify2FA userID _ => userID = u → ∃ after ∈ entry.after.totp u,
      if entry.reply.isOk = true then row.SameButUse after else row.SameButAttempts after
  | .disable2FA userID _ => userID = u → entry.reply.isOk = false →
      ∃ after ∈ entry.after.totp u, row.SameButAttempts after
  | .consumeRecoveryCode userID _ => userID = u → entry.reply.isOk = true →
      ∃ after ∈ entry.after.totp u, row.SameButCodes after
  | _ => True

/-- The call changes none but its own fields in an enabled row of the user. -/
def Service.KeepsFields (u : Uuid) (entry : s.CallEntry) : Prop :=
  ∀ row ∈ entry.before.totp u, row.isEnabled = true → Service.KeepsRow row u entry

/-- The call writes the row of the user without a time of use: it compares a wrong
code, or it spends a recovery code. -/
def Service.LeavesOutUse (u : Uuid) (entry : s.CallEntry) : Prop :=
  match entry.request with
  | .verify2FA userID code | .disable2FA userID code =>
      userID = u ∧ s.totpComparison entry.instant entry.before u code = some false
  | .consumeRecoveryCode userID code => userID = u ∧ s.AcceptsRecoveryCode entry.before u code
  | _ => False

/-- The call does so to an enabled row that has a time of use. -/
def Service.ForgetsUse (u : Uuid) (entry : s.CallEntry) : Prop :=
  Service.LeavesOutUse u entry ∧
    ∃ row ∈ entry.before.totp u, row.isEnabled = true ∧ row.lastUsedAt ≠ none

section Call

variable (now : Nat) {db : Db} {u : Uuid} {row : UserTotpSecret} (code : Bytes)
  (hrow : row ∈ db.totp u) (henabled : row.isEnabled = true)

include hrow henabled

theorem verify2FA_keeps_iff :
    (∃ after ∈ ((s.verify2FA u code).run (serve s.lib) now db).2.totp u,
      if ((s.verify2FA u code).run (serve s.lib) now db).1.isOk = true then
        row.SameButUse after else row.SameButAttempts after) ↔
    (s.totpComparison now db u code = some false → row.lastUsedAt = none) := by
  rcases run_verify2FA now db code with ⟨hnone, err, hrun⟩ |
    ⟨read, hread, -, -, ⟨hverdict, hrun⟩ | ⟨hverdict, hrun⟩⟩
  · rw [hrun, hnone]
    exact iff_of_true ⟨row, hrow, rfl⟩ nofun
  · obtain rfl : row = read := Option.some.inj (hrow.symm.trans hread)
    rw [hrun, hverdict]
    exact iff_of_true ⟨_, Db.setTotp_self .., UserTotpSecret.sameButUse_used henabled now⟩ nofun
  · obtain rfl : row = read := Option.some.inj (hrow.symm.trans hread)
    rw [hrun, hverdict]
    simp only [Db.setTotp_self, Option.mem_some_iff, exists_eq_left', forall_const]
    exact UserTotpSecret.sameButAttempts_counted_iff henabled now

theorem disable2FA_keeps_iff :
    (((s.disable2FA u code).run (serve s.lib) now db).1.isOk = false →
      ∃ after ∈ ((s.disable2FA u code).run (serve s.lib) now db).2.totp u,
        row.SameButAttempts after) ↔
    (s.totpComparison now db u code = some false → row.lastUsedAt = none) := by
  rcases run_disable2FA now db code with ⟨hnone, err, hrun⟩ |
    ⟨read, hread, -, -, ⟨hverdict, hrun⟩ | ⟨hverdict, hrun⟩⟩
  · rw [hrun, hnone]
    exact iff_of_true (fun _ => ⟨row, hrow, rfl⟩) nofun
  · rw [hrun, hverdict]
    exact iff_of_true nofun nofun
  · obtain rfl : row = read := Option.some.inj (hrow.symm.trans hread)
    rw [hrun, hverdict]
    simp only [Db.setTotp_self, Option.mem_some_iff, exists_eq_left', forall_const]
    exact (imp_iff_right rfl).trans (UserTotpSecret.sameButAttempts_counted_iff henabled now)

theorem consumeRecoveryCode_keeps_iff :
    (((s.consumeRecoveryCode u code).run (serve s.lib) now db).1.isOk = true →
      ∃ after ∈ ((s.consumeRecoveryCode u code).run (serve s.lib) now db).2.totp u,
        row.SameButCodes after) ↔
    (s.AcceptsRecoveryCode db u code → row.lastUsedAt = none) := by
  rw [← s.run_consumeRecoveryCode_ok now db u code]
  rcases run_consumeRecoveryCode now db code with
    ⟨err, hrun⟩ | ⟨read, hread, -, found, -, hrun⟩
  · rw [hrun]
    exact iff_of_true nofun nofun
  · obtain rfl : row = read := Option.some.inj (hrow.symm.trans hread)
    rw [hrun]
    simp only [Db.setTotp_self, Option.mem_some_iff, exists_eq_left', forall_const]
    exact (imp_iff_right rfl).trans (UserTotpSecret.sameButCodes_spent_iff henabled found now)

end Call

section Entry

variable {u : Uuid} {entry : s.CallEntry}
  (hprocess : s.processCall entry.instant entry.request entry.before = (entry.reply, entry.after))

include hprocess

theorem keepsRow_iff {row : UserTotpSecret} (hrow : row ∈ entry.before.totp u)
    (henabled : row.isEnabled = true) :
    Service.KeepsRow row u entry ↔ (Service.LeavesOutUse u entry → row.lastUsedAt = none) := by
  obtain ⟨before, now, request, reply, after⟩ := entry
  dsimp only at hprocess hrow
  unfold Service.KeepsRow Service.LeavesOutUse
  cases request with
  | verify2FA userID code =>
      obtain ⟨rfl, rfl⟩ := Service.processCall_answered rfl hprocess
      simp only [isOk_map, and_imp]
      refine imp_congr_right fun howner => ?_
      subst howner
      exact verify2FA_keeps_iff now code hrow henabled
  | disable2FA userID code =>
      obtain ⟨rfl, rfl⟩ := Service.processCall_answered rfl hprocess
      simp only [isOk_map, and_imp]
      refine imp_congr_right fun howner => ?_
      subst howner
      exact disable2FA_keeps_iff now code hrow henabled
  | consumeRecoveryCode userID code =>
      obtain ⟨rfl, rfl⟩ := Service.processCall_answered rfl hprocess
      simp only [isOk_map, and_imp]
      refine imp_congr_right fun howner => ?_
      subst howner
      exact consumeRecoveryCode_keeps_iff now code hrow henabled
  | _ => exact iff_of_true trivial False.elim

theorem keepsFields_iff : Service.KeepsFields u entry ↔ ¬Service.ForgetsUse u entry := by
  constructor
  · rintro hkeeps ⟨hleaves, row, hrow, henabled, hused⟩
    exact hused ((keepsRow_iff hprocess hrow henabled).mp (hkeeps row hrow henabled) hleaves)
  · intro hforgets row hrow henabled
    refine (keepsRow_iff hprocess hrow henabled).mpr fun hleaves => ?_
    by_contra hused
    exact hforgets ⟨hleaves, row, hrow, henabled, hused⟩

/-- The calls that leave the time of use out are those with these verdicts. -/
theorem leavesOutUse_of_totpVerdict
    (hverdict : Service.totpVerdict u entry = some .wrong ∨
      Service.totpVerdict u entry = some .recovered) : Service.LeavesOutUse u entry := by
  unfold Service.totpVerdict at hverdict
  unfold Service.LeavesOutUse
  cases hrequest : entry.request with
  | verify2FA userID code => simpa [hrequest] using hverdict
  | disable2FA userID code => simpa [hrequest] using hverdict
  | consumeRecoveryCode userID code =>
      obtain ⟨rfl, hok⟩ : userID = u ∧ entry.reply.isOk = true := by
        simpa [hrequest] using hverdict
      exact ⟨rfl, (isOk_consume_iff hprocess hrequest).mp hok⟩
  | confirm2FA userID code => simp [hrequest] at hverdict
  | _ => simp [hrequest] at hverdict

end Entry

/-! ## Runs -/

/-- The time of the latest accepted code after a call. A confirmation starts anew. -/
def acceptedAfter (accepted : Option Nat) (now : Nat) : Option TotpVerdict → Option Nat
  | some .confirmed => none
  | some .accepted => some now
  | _ => accepted

/-- The time of the latest code accepted since the factor was confirmed, from the time
at the start. -/
def Service.lastAccepted (u : Uuid) (first : Option Nat) (history : List s.CallEntry) :
    Option Nat :=
  history.foldr (fun entry accepted =>
    acceptedAfter accepted entry.instant (Service.totpVerdict u entry)) first

/-- The time of use in the row of the user. -/
def Db.lastUse (db : Db) (u : Uuid) : Option Nat :=
  (db.totp u).bind UserTotpSecret.lastUsedAt

/-- An enabled row of the user tells when the latest code was accepted. -/
def Db.TellsUse (db : Db) (u : Uuid) (accepted : Option Nat) : Prop :=
  ∀ row ∈ db.totp u, row.isEnabled = true → row.lastUsedAt = accepted

theorem tellsUse_lastUse (db : Db) (u : Uuid) : db.TellsUse u (db.lastUse u) := by
  intro row hrow _
  rw [Db.lastUse, Option.mem_def.mp hrow]
  rfl

/-- The row keeps telling the time of use, unless a write leaves it out. -/
theorem TotpWrite.tellsUse {now : Nat} {verdict : Option TotpVerdict}
    {before after : Option UserTotpSecret} (hwrite : TotpWrite now verdict before after)
    {accepted : Option Nat}
    (hbefore : ∀ row ∈ before, row.isEnabled = true → row.lastUsedAt = accepted)
    (hunused : verdict = some .wrong ∨ verdict = some .recovered →
      ∀ row ∈ before, row.isEnabled = true → row.lastUsedAt = none) :
    ∀ row ∈ after, row.isEnabled = true →
      row.lastUsedAt = acceptedAfter accepted now verdict := by
  intro row hrow henabled
  cases hwrite with
  | quiet => exact hbefore row hrow henabled
  | setup _ hpending =>
      obtain rfl := Option.some.inj hrow
      exact nomatch hpending.symm.trans henabled
  | confirmed _ =>
      obtain rfl := Option.some.inj hrow
      rfl
  | used _ =>
      obtain rfl := Option.some.inj hrow
      rfl
  | removed _ => exact nomatch hrow
  | spent hspent found =>
      obtain rfl := Option.some.inj hrow
      exact (hunused (.inr rfl) _ rfl hspent).symm.trans (hbefore _ rfl hspent)
  | counted hcounted _ =>
      obtain rfl := Option.some.inj hrow
      exact (hunused (.inl rfl) _ rfl hcounted).symm.trans (hbefore _ rfl hcounted)

section Run

variable {start last : Db} {history : List s.CallEntry}

theorem tellsUse_of_run (hrun : s.CallRun start history last) (u : Uuid)
    (hforgets : ∀ entry ∈ history, ¬Service.ForgetsUse u entry) :
    last.TellsUse u (Service.lastAccepted u (start.lastUse u) history) := by
  revert hforgets
  apply Serial.invariant (motive := fun history db =>
    (∀ entry ∈ history, ¬Service.ForgetsUse u entry) →
      db.TellsUse u (Service.lastAccepted u (start.lastUse u) history)) hrun
  · exact fun _ => tellsUse_lastUse start u
  · intro history before now request _ hbefore _ hforgets
    have htells := hbefore fun entry hentry => hforgets entry (List.mem_cons_of_mem _ hentry)
    have hprocess := s.processCall_entryAt now request before
    refine (totpWrite_processCall (u := u) hprocess).tellsUse htells fun hverdict row hrow => ?_
    intro henabled
    by_contra hused
    exact hforgets _ List.mem_cons_self
      ⟨leavesOutUse_of_totpVerdict hprocess hverdict, row, hrow, henabled, hused⟩

/-- In a run each call changes none but its own fields in the enabled rows of the user,
and these tell when the latest code was accepted, just if no wrong code is counted and
no recovery code spent on a row with a time of use. -/
theorem totp_keeps_fields_iff (hrun : s.CallRun start history last) (u : Uuid) :
    ((∀ entry ∈ history, Service.KeepsFields u entry) ∧
      ∀ later earlier state, history = later ++ earlier → s.CallRun start earlier state →
        state.TellsUse u (Service.lastAccepted u (start.lastUse u) earlier)) ↔
    ∀ entry ∈ history, ¬Service.ForgetsUse u entry := by
  have hprocessed : ∀ entry ∈ history,
      s.processCall entry.instant entry.request entry.before = (entry.reply, entry.after) := by
    intro entry hentry
    obtain ⟨later, earlier, hsplit⟩ := List.append_of_mem hentry
    exact (Serial.entry hrun hsplit).2.2
  constructor
  · rintro ⟨hkeeps, -⟩ entry hentry
    exact (keepsFields_iff (hprocessed entry hentry)).mp (hkeeps entry hentry)
  · intro hforgets
    refine ⟨fun entry hentry => ?_, ?_⟩
    · exact (keepsFields_iff (hprocessed entry hentry)).mpr (hforgets entry hentry)
    · intro later earlier state hsplit hearlier
      refine tellsUse_of_run hearlier u fun entry hentry => hforgets entry ?_
      exact hsplit ▸ List.mem_append_right later hentry

end Run

namespace Sample

/-- Alice signs in with a code, and mistypes the next one. -/
def codeAccepted : service.CallEntry :=
  service.entryAt (20 * second) (.verify2FA alice.id validCode) dbWithTotp

def codeMistyped : service.CallEntry :=
  service.entryAt (90 * second) (.verify2FA alice.id (bytesOf "000000")) codeAccepted.after

theorem run_codeAccepted : service.CallRun dbWithTotp [codeAccepted] codeAccepted.after :=
  Service.callRun_first (s := service) dbWithTotp codeAccepted.instant codeAccepted.request

theorem run_codeMistyped :
    service.CallRun dbWithTotp [codeMistyped, codeAccepted] codeMistyped.after :=
  Service.callRun_next run_codeAccepted codeMistyped.instant codeMistyped.request (by decide)

/-- The accepted code is told. -/
theorem codeAccepted_told :
    codeAccepted.after.TellsUse alice.id (some (20 * second)) := by
  have hforgets : ∀ entry ∈ [codeAccepted], ¬Service.ForgetsUse alice.id entry := by
    intro entry hentry
    obtain rfl := List.mem_singleton.mp hentry
    rintro ⟨⟨-, hwrong⟩, -⟩
    revert hwrong
    decide +kernel
  have htells := ((totp_keeps_fields_iff run_codeAccepted alice.id).mpr hforgets).2 [] _ _ rfl
    run_codeAccepted
  have haccepted : Service.lastAccepted alice.id (dbWithTotp.lastUse alice.id) [codeAccepted] =
      some (20 * second) := by
    decide +kernel
  rwa [haccepted] at htells

/-- The mistyped code erases the time of the accepted one. -/
theorem codeMistyped_erases :
    service.CallRun dbWithTotp [codeMistyped, codeAccepted] codeMistyped.after ∧
    codeMistyped.reply = .error (.unauthorized "invalid TOTP code") ∧
    ¬Service.KeepsFields alice.id codeMistyped ∧
    ¬codeMistyped.after.TellsUse alice.id
      (Service.lastAccepted alice.id (dbWithTotp.lastUse alice.id)
        [codeMistyped, codeAccepted]) := by
  have hbefore : codeMistyped.before.totp alice.id = some (totpRow.used (20 * second)) := by
    decide +kernel
  have hafter : codeMistyped.after.totp alice.id =
      some ((totpRow.used (20 * second)).counted (90 * second)) := by
    decide +kernel
  have haccepted : Service.lastAccepted alice.id (dbWithTotp.lastUse alice.id)
      [codeMistyped, codeAccepted] = some (20 * second) := by
    decide +kernel
  refine ⟨run_codeMistyped, ?_, ?_, ?_⟩
  · rfl
  · intro hkeeps
    refine (keepsFields_iff (service.processCall_entryAt ..)).mp hkeeps ⟨⟨rfl, ?_⟩, ?_⟩
    · decide +kernel
    · exact ⟨_, hbefore, rfl, nofun⟩
  · intro htells
    rw [haccepted] at htells
    exact nomatch htells _ hafter rfl

end Sample

end Skolva.Auth
