import Skolva.Auth.Calls

/-! # Calls of the service while the store fails

Any call to the database, to `metadata.Store` or to the mail server may report an
error, each one for itself. A call that fails has no effect.
-/

namespace Skolva.Auth

open Effect

/-! ## One database call -/

/-- The state after a call that may fail. -/
def attempted (lib : External) (fails : Nat → Op → Option CallError) (now index : Nat) (op : Op)
    (db : Db) : Db :=
  match fails index op with
  | some _ => db
  | none => (serve lib now op db).2

/-- The call is the only one that fails, and it is one of `metadata.Store`. -/
def onlyMetaCall (failing : Nat) (cause : CallError) : Nat → Op → Option CallError :=
  fun index op =>
    match op with
    | .metaGet .. | .metaSet .. | .metaDelete .. => if index = failing then some cause else none
    | _ => none

section Calls

variable {fails : Nat → Op → Option CallError} (lib : External) (now index : Nat) {op : Op} (db : Db)

@[simp] theorem attempted_none (hcall : fails index op = none) :
    attempted lib fails now index op db = (serve lib now op db).2 := by
  simp [attempted, hcall]

@[simp] theorem attempted_some {cause : CallError} (hcall : fails index op = some cause) :
    attempted lib fails now index op db = db := by
  simp [attempted, hcall]

theorem attempted_meta (fails : Nat → Op → Option CallError) {u : Uuid} {key : MetaKey}
    (hop : op.LeavesMeta u key) :
    (attempted lib fails now index op db).usersMeta u key = db.usersMeta u key := by
  unfold attempted
  cases fails index op with
  | some cause => rfl
  | none => exact serve_meta lib now db hop

/-- A call whose answer is dropped. -/
theorem run_ignored {α : Type} (fails : Nat → Op → Option CallError) (op : Op) (rest : Prog α) :
    (Program.perform op >>= fun _ => rest).run (serveFailing lib fails) now (index, db) =
      rest.run (serveFailing lib fails) now
        (index + 1, attempted lib fails now index op db) := by
  rw [Program.run_bind, Program.run_perform]
  cases hcall : fails index op with
  | some cause => rw [serveFailing_some now db lib hcall, attempted_some lib now index db hcall]
  | none => rw [serveFailing_none now db lib hcall, attempted_none lib now index db hcall]

variable {α : Type} {rest : op.Resp → Prog α}

theorem run_failed {cause : CallError} (hcall : fails index op = some cause) :
    (Program.perform op >>= rest).run (serveFailing lib fails) now (index, db) =
      (rest (.error cause)).run (serveFailing lib fails) now (index + 1, db) := by
  rw [Program.run_bind, Program.run_perform, serveFailing_some now db lib hcall]

theorem run_served (hcall : fails index op = none) :
    (Program.perform op >>= rest).run (serveFailing lib fails) now (index, db) =
      (rest (serve lib now op db).1).run (serveFailing lib fails) now
        (index + 1, (serve lib now op db).2) := by
  rw [Program.run_bind, Program.run_perform, serveFailing_none now db lib hcall]

end Calls

/-- `GetUser` reads the row of the user, unless the look-up fails. -/
theorem run_getUser_failing (lib : External) (fails : Nat → Op → Option CallError)
    (now index : Nat) (db : Db) (id : Uuid) :
    (Service.getUser id).run (serveFailing lib fails) now (index, db) =
      (match fails index (.getUserByID id) with
        | some cause => .error (.notFoundOr "user" cause)
        | none =>
            match db.liveUser id with
            | none => .error (.notFound "user")
            | some user => .ok (userFrom user.row), index + 1, db) := by
  unfold Service.getUser
  cases hcall : fails index (.getUserByID id) with
  | some cause => rw [run_failed lib now index db hcall]; rfl
  | none =>
      rw [run_served lib now index db hcall]
      cases huser : db.liveUser id with
      | none => simp [serve, huser, one, Err.notFoundOr]
      | some user => simp [serve, huser, one]

/-! ## Writers of several keys -/

namespace Service

variable (s : Service) (fails : Nat → Op → Option CallError) (now : Nat) (db : Db)

/-- The mail with the link that `ForgotPassword` sends. -/
def resetMessage (draw : ResetDraw) (u : UserByEmailRow) : Message where
  recipients := [u.email]
  subject := "Passwort zurücksetzen — Skolva"
  body := .resetLink u.id (draw.plain s.lib) (resetTokenExpiry / Time.hour)

/-- The hash and the expiry of a reset token are stored. -/
def storedReset (now : Nat) (u : Uuid) (hash : Text) (db : Db) : Db :=
  (db.setMeta u .resetTokenHash (some hash)).setMeta u .resetExpiresAt
    (some (formatRFC3339 (now + resetTokenExpiry)))

/-- `ForgotPassword` for an account stops at the first of its two writes that fails. -/
theorem run_forgotPasswordAfter_failing {draw : ResetDraw} {u : UserByEmailRow} {hash : Text}
    (hhash : s.lib.bcryptGenerate draw.salt (draw.plain s.lib) = some hash) :
    (s.forgotPasswordAfter draw u).run (serveFailing s.lib fails) now (1, db) =
      match fails 1 (.metaSet u.id .resetTokenHash hash) with
      | some cause => (.error (.call cause), 2, db)
      | none =>
          match fails 2 (.metaSet u.id .resetExpiresAt
            (formatRFC3339 (now + resetTokenExpiry))) with
          | some cause => (.error (.call cause), 3, db.setMeta u.id .resetTokenHash (some hash))
          | none =>
              (.ok (), 5, attempted s.lib fails now 4 (.sendMail (s.resetMessage draw u))
                (attempted s.lib fails now 3 (.metaDelete u.id .resetUsed)
                  (storedReset now u.id hash db))) := by
  unfold forgotPasswordAfter
  rw [hhash]
  dsimp only
  rw [Program.run_bind, Program.run_readClock]
  cases hfirst : fails 1 (.metaSet u.id .resetTokenHash hash) with
  | some cause => rw [run_failed s.lib now 1 db hfirst]; rfl
  | none =>
      rw [run_served s.lib now 1 db hfirst]
      dsimp only [serve]
      cases hsecond : fails 2 (.metaSet u.id .resetExpiresAt
          (formatRFC3339 (now + resetTokenExpiry))) with
      | some cause => rw [run_failed s.lib now _ _ hsecond]; rfl
      | none =>
          rw [run_served s.lib now _ _ hsecond]
          dsimp only [serve]
          rw [run_ignored, run_ignored]
          rfl

/-- The hash and the expiry of a code are stored. -/
def storedEmailOTP (now : Nat) (u : Uuid) (hash : Text) (db : Db) : Db :=
  (db.setMeta u .email2faOTPHash (some hash)).setMeta u .email2faExpires
    (some (formatRFC3339 (now + email2faOTPExpiry)))

/-- `issueEmailOTP` as well; its two deletions and the mail cannot stop it. -/
theorem run_issueEmailOTP_failing {draw : OTPDraw} {hash : Text} (u : Uuid)
    (email subject intro : String) (index : Nat)
    (hhash : s.lib.bcryptGenerate draw.salt (generateNumericOTP draw) = some hash) :
    (s.issueEmailOTP draw u email subject intro).run (serveFailing s.lib fails) now (index, db) =
      match fails index (.metaSet u .email2faOTPHash hash) with
      | some cause => (.error (.call cause), index + 1, db)
      | none =>
          match fails (index + 1) (.metaSet u .email2faExpires
            (formatRFC3339 (now + email2faOTPExpiry))) with
          | some cause =>
              (.error (.call cause), index + 2, db.setMeta u .email2faOTPHash (some hash))
          | none =>
              (.ok (), index + 5, attempted s.lib fails now (index + 4)
                (.sendMail {
                  recipients := [email]
                  subject := subject
                  body := .code intro (generateNumericOTP draw) (email2faOTPExpiry / Time.minute) })
                (attempted s.lib fails now (index + 3) (.metaDelete u .email2faLocked)
                  (attempted s.lib fails now (index + 2) (.metaDelete u .email2faAttempts)
                    (storedEmailOTP now u hash db)))) := by
  unfold issueEmailOTP
  dsimp only
  rw [hhash]
  dsimp only
  cases hfirst : fails index (.metaSet u .email2faOTPHash hash) with
  | some cause => rw [run_failed s.lib now index db hfirst]; rfl
  | none =>
      rw [run_served s.lib now index db hfirst]
      dsimp only [serve]
      rw [Program.run_bind, Program.run_readClock]
      dsimp only
      cases hsecond : fails (index + 1) (.metaSet u .email2faExpires
          (formatRFC3339 (now + email2faOTPExpiry))) with
      | some cause => rw [run_failed s.lib now _ _ hsecond]; rfl
      | none =>
          rw [run_served s.lib now _ _ hsecond]
          dsimp only [serve]
          rw [run_ignored, run_ignored, run_ignored]
          rfl

end Service

/-! ## Verification of email codes -/

/-- The value of a key, as a look-up of it that can fail reports it. -/
def readMeta (fails : Nat → Op → Option CallError) (index : Nat) (db : Db) (u : Uuid)
    (key : MetaKey) : Except CallError (Option Text) :=
  match fails index (.metaGet u key) with
  | some cause => .error cause
  | none => .ok (db.usersMeta u key)

theorem run_metaGet_failing (lib : External) (fails : Nat → Op → Option CallError)
    (now index : Nat) (db : Db) (u : Uuid) (key : MetaKey) :
    (metaGet u key).run (serveFailing lib fails) now (index, db) =
      (readMeta fails index db u key, index + 1, db) := by
  rw [Program.run_perform]
  unfold readMeta
  cases hcall : fails index (.metaGet u key) with
  | some cause => exact serveFailing_some now db lib hcall
  | none => exact serveFailing_none now db lib hcall

namespace Service

variable (s : Service) (fails : Nat → Op → Option CallError) (now index : Nat) (db : Db) (u : Uuid)

/-- The code is compared with this hash: no lock is seen, and the look-ups of the expiry
and of the hash succeed and show a live code. -/
def ComparesEmailOTP (hash : Text) : Prop :=
  ¬(fails index (.metaGet u .email2faLocked) = none ∧ EmailLockedAt db now u) ∧
    (fails (index + 1) (.metaGet u .email2faExpires) = none ∧
      ∃ instant ∈ (db.usersMeta u .email2faExpires).bind parseRFC3339, now ≤ instant) ∧
    fails (index + 2) (.metaGet u .email2faOTPHash) = none ∧
      db.usersMeta u .email2faOTPHash = some hash

theorem run_activeEmailOTP_failing :
    (∃ hash, ComparesEmailOTP fails now index db u hash ∧
      (activeEmailOTP u).run (serveFailing s.lib fails) now (index, db) =
        (.ok hash, index + 3, db)) ∨
    ((∀ hash, ¬ComparesEmailOTP fails now index db u hash) ∧
      ∃ err count, (activeEmailOTP u).run (serveFailing s.lib fails) now (index, db) =
        (.error err, count, db)) := by
  obtain ⟨locked, hrunLocked, hlocked⟩ := run_isBefore now (serveFailing s.lib fails)
    (index + 1, db) (valueOr none (readMeta fails index db u .email2faLocked))
  have hlock : locked = true ↔
      fails index (.metaGet u .email2faLocked) = none ∧ EmailLockedAt db now u := by
    rw [hlocked]
    unfold readMeta EmailLockedAt
    cases fails index (.metaGet u .email2faLocked) <;> simp
  unfold activeEmailOTP ComparesEmailOTP
  rw [Program.run_bind, run_metaGet_failing]
  dsimp only
  rw [Program.run_bind, hrunLocked, ← hlock]
  cases locked with
  | true => exact .inr ⟨by simp, _, _, rfl⟩
  | false =>
      simp only [Bool.false_eq_true, if_false, not_false_eq_true, true_and]
      cases hgetExpires : fails (index + 1) (.metaGet u .email2faExpires) with
      | some cause =>
          rw [run_failed s.lib now _ db hgetExpires]
          exact .inr ⟨by simp, _, _, rfl⟩
      | none =>
          rw [run_served s.lib now _ db hgetExpires]
          dsimp only [serve]
          cases hexpires : db.usersMeta u .email2faExpires with
          | none => exact .inr ⟨by simp, _, _, rfl⟩
          | some expiresStr =>
              obtain ⟨expired, hrunExpired, hexpired⟩ := run_hasExpired now
                (serveFailing s.lib fails) (index + 1 + 1, db) expiresStr
              dsimp only
              rw [Program.run_bind, hrunExpired, Option.bind_some, ← hexpired]
              cases expired with
              | true => exact .inr ⟨by simp, _, _, rfl⟩
              | false =>
                  simp only [Bool.false_eq_true, if_false, true_and]
                  cases hgetHash : fails (index + 2) (.metaGet u .email2faOTPHash) with
                  | some cause =>
                      rw [run_failed s.lib now _ db hgetHash]
                      exact .inr ⟨by simp, _, _, rfl⟩
                  | none =>
                      rw [run_served s.lib now _ db hgetHash]
                      dsimp only [serve]
                      cases hhash : db.usersMeta u .email2faOTPHash with
                      | none => exact .inr ⟨by simp, _, _, rfl⟩
                      | some hash => exact .inl ⟨hash, by simp, rfl⟩

/-- The state after `rejectEmailOTP`, whose calls may fail. -/
def rejectedEmailOTP (lib : External) : Db :=
  let attempts := storedAttempts (valueOr none (readMeta fails index db u .email2faAttempts)) + 1
  let counted := attempted lib fails now (index + 1)
    (.metaSet u .email2faAttempts (itoa attempts)) db
  if maxFailedAttempts ≤ attempts then
    attempted lib fails now (index + 2)
      (.metaSet u .email2faLocked (formatRFC3339 (now + lockoutDuration))) counted
  else counted

/-- The state after `acceptEmailOTP`, whose calls may fail. -/
def acceptedEmailOTP (lib : External) : Db :=
  attempted lib fails now (index + 3) (.metaDelete u .email2faLocked)
    (attempted lib fails now (index + 2) (.metaDelete u .email2faAttempts)
      (attempted lib fails now (index + 1) (.metaDelete u .email2faExpires)
        (attempted lib fails now index (.metaDelete u .email2faOTPHash) db)))

theorem run_rejectEmailOTP_failing :
    ∃ count, (rejectEmailOTP u).run (serveFailing s.lib fails) now (index, db) =
      (.error (.unauthorized "invalid code"), count,
        rejectedEmailOTP fails now index db u s.lib) := by
  unfold rejectEmailOTP rejectedEmailOTP
  rw [Program.run_bind, run_metaGet_failing]
  dsimp only
  rw [run_ignored]
  by_cases hlock : maxFailedAttempts ≤
      storedAttempts (valueOr none (readMeta fails index db u .email2faAttempts)) + 1
  · rw [if_pos hlock, if_pos hlock, Program.run_bind, Program.run_readClock]
    dsimp only
    rw [run_ignored]
    exact ⟨_, rfl⟩
  · rw [if_neg hlock, if_neg hlock]
    exact ⟨_, rfl⟩

theorem run_acceptEmailOTP_failing :
    (acceptEmailOTP u).run (serveFailing s.lib fails) now (index, db) =
      (.ok (), index + 4, acceptedEmailOTP fails now index db u s.lib) := by
  unfold acceptEmailOTP acceptedEmailOTP
  rw [run_ignored, run_ignored, run_ignored, run_ignored]
  rfl

/-- A code that is compared is accepted or counted, as far as the calls for it succeed;
otherwise nothing changes. -/
theorem run_verifyEmailOTP_failing (code : Bytes) :
    (∃ hash, ComparesEmailOTP fails now index db u hash ∧
      if s.lib.bcryptCompare hash code then
        (s.verifyEmailOTP u code).run (serveFailing s.lib fails) now (index, db) =
          (.ok (), index + 7, acceptedEmailOTP fails now (index + 3) db u s.lib)
      else ∃ count, (s.verifyEmailOTP u code).run (serveFailing s.lib fails) now (index, db) =
        (.error (.unauthorized "invalid code"), count,
          rejectedEmailOTP fails now (index + 3) db u s.lib)) ∨
    ((∀ hash, ¬ComparesEmailOTP fails now index db u hash) ∧
      ∃ err count, (s.verifyEmailOTP u code).run (serveFailing s.lib fails) now (index, db) =
        (.error err, count, db)) := by
  unfold verifyEmailOTP
  rcases run_activeEmailOTP_failing s fails now index db u with
    ⟨hash, hcompares, hrun⟩ | ⟨hnone, err, count, hrun⟩
  · refine .inl ⟨hash, hcompares, ?_⟩
    rw [Program.run_bind, hrun]
    dsimp only
    by_cases hcode : s.lib.bcryptCompare hash code = true
    · rw [if_pos hcode, if_pos hcode, run_acceptEmailOTP_failing]
    · rw [if_neg hcode, if_neg hcode]
      exact run_rejectEmailOTP_failing s fails now (index + 3) db u
  · refine .inr ⟨hnone, err, count, ?_⟩
    rw [Program.run_bind, hrun]
    rfl

end Service

/-! ## Runs of calls that may fail -/

/-- A call with the failures it meets. -/
structure FailingCall where
  call : ServiceCall
  fails : Nat → Op → Option CallError

namespace Service

variable (s : Service)

/-- Run a call on its own, with its failures. -/
def processFailing (now : Nat) (request : FailingCall) (db : Db) : s.Outcome × Db :=
  let outcome := (s.call request.call).run (serveFailing s.lib request.fails) now (0, db)
  (outcome.1, outcome.2.2)

abbrev FailingEntry := Entry FailingCall s.Outcome Db

/-- The entry of a call with failures in this state. -/
def failingEntryAt (now : Nat) (request : FailingCall) (before : Db) : s.FailingEntry :=
  ⟨before, now, request, (s.processFailing now request before).1,
    (s.processFailing now request before).2⟩

/-- Runs of such calls under a non-decreasing clock. -/
def FailingRun (start : Db) : List s.FailingEntry → Db → Prop :=
  Serial s.processFailing (fun history now _ => ClockForward history now) start

variable {s}

theorem failingRun_first (start : Db) (now : Nat) (request : FailingCall) :
    s.FailingRun start [s.failingEntryAt now request start]
      (s.failingEntryAt now request start).after :=
  Serial.cons now request Serial.nil fun _ hentry => absurd hentry (Option.not_mem_none _)

theorem failingRun_next {start : Db} {latest : s.FailingEntry} {history : List s.FailingEntry}
    (hrun : s.FailingRun start (latest :: history) latest.after) (now : Nat)
    (request : FailingCall) (hclock : latest.instant ≤ now) :
    s.FailingRun start (s.failingEntryAt now request latest.after :: latest :: history)
      (s.failingEntryAt now request latest.after).after := by
  refine Serial.cons now request hrun fun entry hentry => ?_
  obtain rfl := Option.some.inj hentry
  exact hclock

/-- What the writes of a call preserve, the call preserves, whatever fails. -/
theorem processFailing_preserves {request : FailingCall} {motive : Db → Prop} {now : Nat}
    (hserve : ∀ op db, request.call.Writes op → motive db → motive (serve s.lib now op db).2)
    {db : Db} (hdb : motive db) : motive (s.processFailing now request db).2 := by
  refine Program.run_preserves (serveFailing s.lib request.fails) now (uses_call request.call)
    (motive := fun store => motive store.2) (fun op store hop hstore => ?_) hdb
  obtain ⟨index, before⟩ := store
  cases hcall : request.fails index op with
  | some cause =>
      rw [serveFailing_some now before s.lib hcall]
      exact hstore
  | none =>
      rw [serveFailing_none now before s.lib hcall]
      exact hserve op before hop hstore

/-- A call whose method leaves this result and this state. -/
theorem processFailing_eq {α : Type} {answer : α → Answer s.lib.Token}
    {method : Prog (Except Err α)} {now count : Nat} {request : FailingCall} {db after : Db}
    {result : Except Err α} (hcall : s.call request.call = s.answering answer method)
    (hrun : method.run (serveFailing s.lib request.fails) now (0, db) = (result, count, after)) :
    s.processFailing now request db = (result.map answer, after) := by
  unfold processFailing
  rw [hcall, answering, Program.run_map, hrun]

end Service

end Skolva.Auth
