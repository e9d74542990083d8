import Skolva.Auth.TwoStepLogin

/-! # Accounts that may get access

Between the two steps of a login an account can be disabled, deleted or anonymised.
A run consists of requests to the endpoints and of anonymisations.
-/

namespace Skolva.Auth

open Effect

inductive AccountStep (Token : Type) where
  | request (request : Request Token)
  | anonymise (u : Uuid)

/-- `UPDATE users SET anonymized_at = NOW() WHERE id = u`. -/
def Db.anonymise (db : Db) (now : Nat) (u : Uuid) : Db :=
  { db with users := db.users.map (fun user =>
      if user.id = u then { user with anonymizedAt := some now, updatedAt := now } else user) }

/-- The row of the user is neither deleted nor anonymised, and it is active. -/
def Db.Usable (db : Db) (u : Uuid) : Prop :=
  ∃ user, db.liveUser u = some user ∧ user.anonymizedAt = none ∧ user.isActive = true

variable (s : Service)

def Service.processStep (now : Nat) : AccountStep s.lib.Token → Db →
    Option (Reply s.lib.Token) × Db
  | .request request, db =>
      (some (Handler.process s now request db).1, (Handler.process s now request db).2)
  | .anonymise u, db => (none, db.anonymise now u)

abbrev Service.AccountEntry :=
  Entry (AccountStep s.lib.Token) (Option (Reply s.lib.Token)) Db

/-- Every access token of the entry goes to a usable account. -/
def Service.GrantsUsable (entry : s.AccountEntry) : Prop :=
  ∀ reply ∈ entry.reply, ∀ u, s.GrantsAccess reply u → entry.before.Usable u

/-- The entry completes a second step for an account that has been disabled or
anonymised, but not deleted. -/
def Service.RevivesAccount (entry : s.AccountEntry) : Prop :=
  ∃ request, entry.request = .request request ∧ ∃ u,
    s.SecondFactorPassed entry.instant entry.before u request ∧
      (entry.before.liveUser u).isSome = true ∧ ¬entry.before.Usable u

/-- Runs of requests and anonymisations in any order. -/
def Service.AccountRun (start : Db) : List s.AccountEntry → Db → Prop :=
  Serial s.processStep (fun _ _ _ => True) start

variable {s}

theorem keyUnique_processStep {db : Db} (now : Nat) (step : AccountStep s.lib.Token)
    (hkey : db.KeyUnique) : (s.processStep now step db).2.KeyUnique := by
  cases step with
  | request request =>
      have huses : (Handler.handle s request).Uses fun _ => True :=
        Program.uses_of_forall (fun _ => trivial) _
      exact Program.run_preserves (serve s.lib) now huses
        (fun op _ _ hstore => Db.keyUnique_serve s.lib now op hstore) hkey
  | anonymise u =>
      have hids : (db.users.map (fun user =>
          if user.id = u then { user with anonymizedAt := some now, updatedAt := now }
          else user)).map User.id = db.users.map User.id := by
        rw [List.map_map]
        apply List.map_congr_left
        intro user _
        simp only [Function.comp_apply]
        split <;> rfl
      unfold Db.KeyUnique
      exact hids ▸ hkey

theorem keyUnique_before {start last : Db} (hkey : start.KeyUnique)
    {history : List s.AccountEntry} (hrun : s.AccountRun start history last)
    {entry : s.AccountEntry} (hentry : entry ∈ history) : entry.before.KeyUnique := by
  obtain ⟨later, earlier, hsplit⟩ := List.append_of_mem hentry
  obtain ⟨hearlier, -, -⟩ := Serial.entry hrun hsplit
  exact Serial.invariant (motive := fun _ db => db.KeyUnique) hearlier hkey
    fun _ _ now step _ hbefore _ => keyUnique_processStep now step hbefore

/-- `Login` looks at everything that makes an account usable. -/
theorem usable_of_passwordSuffices {db : Db} (hkey : db.KeyUnique) {u : Uuid}
    {request : Request s.lib.Token} (hpassword : s.PasswordSuffices db u request) :
    db.Usable u := by
  cases request with
  | login draw body =>
      cases body with
      | none => exact hpassword.elim
      | some req =>
          obtain ⟨⟨user, huser, rfl, hactive, -⟩, -⟩ := hpassword
          obtain ⟨hlive, hanonymized⟩ := Db.liveUser_of_userWithEmail hkey huser
          exact ⟨user, hlive, hanonymized, hactive⟩
  | _ => exact hpassword.elim

/-- One step grants access to an unusable account exactly where it revives one. -/
theorem grantsUsable_iff {entry : s.AccountEntry} (hkey : entry.before.KeyUnique)
    (hprocess : s.processStep entry.instant entry.request entry.before =
      (entry.reply, entry.after)) :
    s.GrantsUsable entry ↔ ¬s.RevivesAccount entry := by
  have hreply : entry.reply = (s.processStep entry.instant entry.request entry.before).1 := by
    rw [hprocess]
  unfold Service.GrantsUsable Service.RevivesAccount
  rw [hreply]
  cases hstep : entry.request with
  | anonymise u => simp [Service.processStep]
  | request request =>
      simp only [Service.processStep, Option.mem_some_iff, forall_eq',
        Handler.grantsAccess_process]
      constructor
      · rintro husable ⟨found, hfound, u, hpassed, hlive, hunusable⟩
        obtain rfl := AccountStep.request.inj hfound
        exact hunusable (husable u (.inr ⟨hpassed, hlive⟩))
      · -- The password step checks the account itself; the second step only that it exists.
        intro hrevives u haccess
        rcases haccess with hpassword | ⟨hpassed, hlive⟩
        · exact usable_of_passwordSuffices hkey hpassword
        · by_contra hunusable
          exact hrevives ⟨request, rfl, u, hpassed, hlive, hunusable⟩

/-- In a run, access tokens go to usable accounts only, exactly as long as no step
completes a second factor for an account that has been disabled or anonymised. -/
theorem grantsUsable_run_iff {start last : Db} (hkey : start.KeyUnique)
    {history : List s.AccountEntry} (hrun : s.AccountRun start history last) :
    (∀ entry ∈ history, s.GrantsUsable entry) ↔ ∀ entry ∈ history, ¬s.RevivesAccount entry := by
  have hiff : ∀ entry ∈ history, (s.GrantsUsable entry ↔ ¬s.RevivesAccount entry) := by
    intro entry hentry
    obtain ⟨later, earlier, hsplit⟩ := List.append_of_mem hentry
    obtain ⟨-, -, hprocess⟩ := Serial.entry hrun hsplit
    exact grantsUsable_iff (keyUnique_before hkey hrun hentry) hprocess
  exact forall₂_congr hiff

/-! ## A run -/

namespace Sample

/-- The entry of a step at a state. -/
def accountEntry (now : Nat) (step : AccountStep service.lib.Token) (before : Db) :
    service.AccountEntry :=
  ⟨before, now, step, (service.processStep now step before).1,
    (service.processStep now step before).2⟩

def loginStep : service.AccountEntry :=
  accountEntry loginAt (.request loginEntry.request) dbWithTotp

/-- An administrator disables the account between the two steps. -/
def disableStep : service.AccountEntry :=
  accountEntry (1030 * Time.second)
    (.request (.updateUser 2 (service.lib.uuidString alice.id)
      (some ⟨alice.firstName, alice.lastName, some false⟩))) loginStep.after

def verifyStep : service.AccountEntry :=
  accountEntry verifyAt (.request verifyEntry.request) disableStep.after

theorem keyUnique_dbWithTotp : dbWithTotp.KeyUnique := by
  unfold Db.KeyUnique
  decide

theorem run_verifyStep :
    service.AccountRun dbWithTotp [verifyStep, disableStep, loginStep] verifyStep.after := by
  have hlogin : service.AccountRun dbWithTotp [loginStep] loginStep.after :=
    Serial.cons loginAt loginStep.request Serial.nil trivial
  have hdisable : service.AccountRun dbWithTotp [disableStep, loginStep] disableStep.after :=
    Serial.cons disableStep.instant disableStep.request hlogin trivial
  exact Serial.cons verifyAt verifyStep.request hdisable trivial

/-- The row the second step finds. -/
def disabledAlice : User :=
  { alice with isActive := false, updatedBy := some 2, updatedAt := 1030 * Time.second }

theorem liveUser_verifyStep : verifyStep.before.liveUser alice.id = some disabledAlice := by
  decide +kernel

theorem revives_verifyStep : service.RevivesAccount verifyStep := by
  refine ⟨verifyEntry.request, rfl, alice.id, ⟨?_, ?_⟩, ?_, ?_⟩
  · exact ⟨_, rfl, by decide, rfl, by decide⟩
  · exact ⟨totpRow, by decide, rfl, nofun, totpSecret, by decide, by decide⟩
  · rw [liveUser_verifyStep]
    rfl
  · rintro ⟨user, huser, -, hactive⟩
    rw [liveUser_verifyStep] at huser
    rw [← Option.some.inj huser] at hactive
    exact absurd hactive (by decide)

theorem grantsUsable_run_verifyStep :
    (∀ entry ∈ [verifyStep, disableStep, loginStep], service.GrantsUsable entry) ↔
      ∀ entry ∈ [verifyStep, disableStep, loginStep], ¬service.RevivesAccount entry :=
  grantsUsable_run_iff keyUnique_dbWithTotp run_verifyStep

end Sample

/-- Alice's account is disabled between the two steps of her login, and the second
step still hands out an access token. -/
theorem not_forall_grantsUsable :
    ¬∀ (s : Service) (start last : Db) (history : List s.AccountEntry),
      start.KeyUnique → s.AccountRun start history last →
      ∀ entry ∈ history, s.GrantsUsable entry := by
  intro husable
  have hentry : Sample.verifyStep ∈ [Sample.verifyStep, Sample.disableStep, Sample.loginStep] :=
    List.mem_cons_self
  have hverify := husable Sample.service _ _ _ Sample.keyUnique_dbWithTotp Sample.run_verifyStep
    Sample.verifyStep hentry
  have hkey := keyUnique_before Sample.keyUnique_dbWithTotp Sample.run_verifyStep hentry
  exact (grantsUsable_iff hkey rfl).mp hverify Sample.revives_verifyStep

end Skolva.Auth
