import Skolva.Auth.Calls
import Skolva.Effect.Session

/-! # What a TOTP request does to the row

A request reads the row of its user once, works on that copy, and may write the
whole row back. What it writes is determined by what it has read, and not by what
is stored when it writes.
-/

namespace Skolva.Auth

open Effect

/-- What a request has read, written and deleted so far. -/
structure TotpSession where
  read : Option (Except CallError UserTotpSecret) := none
  wrote : Option UpsertTOTPSecretParams := none
  deleted : Bool := false

def TotpSession.after (session : TotpSession) : (op : Op) → op.Resp → TotpSession
  | .getTOTPSecret _, resp => { session with read := some resp }
  | .upsertTOTPSecret _ params, .ok _ => { session with wrote := some params }
  | .deleteTOTPSecret _, .ok _ => { session with deleted := true }
  | _, _ => session

/-- The requests on the TOTP row of this user. -/
def ServiceCall.IsTotp (u : Uuid) : ServiceCall → Prop
  | .setup2FA _ userID | .confirm2FA userID _ | .verify2FA userID _
  | .consumeRecoveryCode userID _ | .disable2FA userID _ => userID = u
  | _ => False

/-- The requests that run `Verify2FA`. -/
def ServiceCall.ChecksTOTP (u : Uuid) (code : Bytes) : ServiceCall → Prop
  | .verify2FA userID given | .disable2FA userID given => userID = u ∧ given = code
  | _ => False

namespace Service

variable (s : Service)

/-- The code fits the secret of the row at some instant. -/
def CodeFits (row : UserTotpSecret) (code : Bytes) : Prop :=
  ∃ secret ∈ s.lib.decrypt row.secretEncrypted, ∃ instant,
    s.lib.totpValidate code secret instant = true

/-- The rows a request may write after this answer to its look-up. -/
inductive Writes (u : Uuid) :
    ServiceCall → Except CallError UserTotpSecret → UpsertTOTPSecretParams → Prop where
  | setup (draw : SetupDraw) (read : Except CallError UserTotpSecret) (encrypted : String)
      (hashes : List Text) (hdisabled : (valueOr .zero read).isEnabled = false) :
      Writes u (.setup2FA draw u) read
        { secretEncrypted := encrypted
          recoveryCodesHash := hashes }
  | confirm (code : Bytes) (row : UserTotpSecret) (now : Nat) (hdisabled : row.isEnabled = false)
      (hcode : s.CodeFits row code) :
      Writes u (.confirm2FA u code) (.ok row)
        { secretEncrypted := row.secretEncrypted
          isEnabled := true
          verifiedAt := some now
          recoveryCodesHash := row.recoveryCodesHash }
  | accept (request : ServiceCall) (code : Bytes) (row : UserTotpSecret) (now : Nat)
      (hrequest : request.ChecksTOTP u code) (henabled : row.isEnabled = true)
      (hcode : s.CodeFits row code) :
      Writes u request (.ok row)
        { secretEncrypted := row.secretEncrypted
          isEnabled := true
          verifiedAt := row.verifiedAt
          recoveryCodesHash := row.recoveryCodesHash
          lastUsedAt := some now
          failedAttempts := 0 }
  | reject (request : ServiceCall) (code : Bytes) (row : UserTotpSecret) (lock : Option Nat)
      (hrequest : request.ChecksTOTP u code) (henabled : row.isEnabled = true)
      (hlock : lock = none ↔ (row.failedAttempts + 1).toInt < maxFailedAttempts) :
      Writes u request (.ok row)
        { secretEncrypted := row.secretEncrypted
          isEnabled := true
          verifiedAt := row.verifiedAt
          recoveryCodesHash := row.recoveryCodesHash
          failedAttempts := row.failedAttempts + 1
          lockedUntil := lock }
  | consume (code : Bytes) (row : UserTotpSecret) (found : Nat) (hash : Text)
      (henabled : row.isEnabled = true) (hhash : row.recoveryCodesHash[found]? = some hash)
      (hcompare : s.lib.bcryptCompare hash code = true) :
      Writes u (.consumeRecoveryCode u code) (.ok row)
        { secretEncrypted := row.secretEncrypted
          isEnabled := true
          verifiedAt := row.verifiedAt
          failedAttempts := 0
          recoveryCodesHash := row.recoveryCodesHash.eraseIdx found }

/-- One look-up, then at most one write that it justifies, and for `Disable2FA` with
an accepted code the deletion. -/
def totpSession (u : Uuid) (request : ServiceCall) : Session Op Op.Resp TotpSession where
  first := {}
  allowed session
    | .getTOTPSecret userID => userID = u ∧ session.read = none ∧ session.wrote = none
    | .getUserByID _ => (∃ draw, request = .setup2FA draw u) ∧ session.read ≠ none
    | .upsertTOTPSecret userID params =>
        userID = u ∧ session.wrote = none ∧
          ∃ read, session.read = some read ∧ s.Writes u request read params
    | .deleteTOTPSecret userID =>
        userID = u ∧ session.wrote ≠ none ∧ ∃ code row, request = .disable2FA u code ∧
          session.read = some (.ok row) ∧ row.isEnabled = true ∧ s.CodeFits row code
    | _ => False
  after := TotpSession.after

/-- How `Verify2FA` ends: with the result that belongs to its write, if it has made one. -/
structure VerifyEnds (code : Bytes) (session : TotpSession) (outcome : Except Err Unit) : Prop where
  refused : session.wrote = none →
    outcome ≠ .ok () ∧ outcome ≠ .error (.unauthorized "invalid TOTP code")
  checked : ∀ params, session.wrote = some params →
    outcome = if params.lastUsedAt = none then .error (.unauthorized "invalid TOTP code")
      else .ok ()
  accepted : outcome = .ok () →
    ∃ row, session.read = some (.ok row) ∧ row.isEnabled = true ∧ s.CodeFits row code

/-- How a request on the row ends. -/
structure TotpEnds (u : Uuid) (request : ServiceCall) (session : TotpSession)
    (outcome : s.Outcome) : Prop where
  wrote : ∀ answer, outcome = .ok answer → session.wrote ≠ none
  deleted : ∀ code answer, request = .disable2FA u code → outcome = .ok answer →
    session.deleted = true
  verified : ∀ code, request = .verify2FA u code →
    ∃ result, s.VerifyEnds code session result ∧ outcome = result.map fun _ => .done

variable {s}

section Follows

variable {u : Uuid} {request : ServiceCall} {σ α : Type} {session : Session Op Op.Resp σ}
  {final : σ → α → Prop} {state : σ}

theorem follows_isLocked {lockedUntil : Option Nat} {rest : Bool → Prog α}
    (hrest : ∀ locked, (rest locked).Follows session final state) :
    (isLocked lockedUntil >>= rest).Follows session final state := by
  cases lockedUntil with
  | none => exact hrest false
  | some instant => exact fun now => hrest (now < instant)

theorem follows_nextLock {failed : Int32} {rest : Option Nat → Prog α}
    (hrest : ∀ lock, (lock = none ↔ failed.toInt < maxFailedAttempts) →
      (rest lock).Follows session final state) :
    (nextLock failed >>= rest).Follows session final state := by
  unfold nextLock
  by_cases hmax : maxFailedAttempts ≤ failed.toInt
  · rw [if_pos hmax]
    exact fun now => hrest _ ⟨nofun, fun hlt => absurd hmax (Int.not_le_of_gt hlt)⟩
  · rw [if_neg hmax]
    exact hrest none ⟨fun _ => Int.lt_of_not_ge hmax, fun _ => rfl⟩

theorem verifyEnds_refused {code : Bytes} {read : Except CallError UserTotpSecret} {err : Err}
    (herr : err ≠ .unauthorized "invalid TOTP code") :
    s.VerifyEnds code { read := some read } (.error err) where
  refused _ := ⟨nofun, fun hinvalid => herr (Except.error.inj hinvalid)⟩
  checked _ hwrote := nomatch hwrote
  accepted haccepted := nomatch haccepted

theorem follows_verify2FA {code : Bytes} (hrequest : request.ChecksTOTP u code) :
    (s.verify2FA u code).Follows (s.totpSession u request) (s.VerifyEnds code)
      (s.totpSession u request).first := by
  refine Program.follows_perform ⟨rfl, rfl, rfl⟩ fun read => ?_
  change (s.verify2FAAfter u code read).Follows _ _ (⟨some read, none, false⟩ : TotpSession)
  unfold verify2FAAfter
  cases read with
  | error cause => exact Program.follows_pure (verifyEnds_refused (by decide))
  | ok row =>
      dsimp only
      by_cases henabled : row.isEnabled = true
      · rw [if_pos henabled]
        refine follows_isLocked fun locked => ?_
        cases locked with
        | true => exact Program.follows_pure (verifyEnds_refused (by decide))
        | false =>
            rw [if_neg Bool.false_ne_true]
            cases hsecret : s.lib.decrypt row.secretEncrypted with
            | none => exact Program.follows_pure (verifyEnds_refused (by decide))
            | some secret =>
                refine Program.follows_readClock fun validated => ?_
                by_cases hvalid : s.lib.totpValidate code secret validated = true
                · rw [if_pos hvalid]
                  have hfits : s.CodeFits row code := ⟨secret, hsecret, validated, hvalid⟩
                  refine Program.follows_readClock fun now => Program.follows_perform
                    ⟨rfl, rfl, _, rfl, .accept request code row now hrequest henabled hfits⟩ ?_
                  rintro (cause | written)
                  · exact Program.follows_pure (verifyEnds_refused nofun)
                  · exact Program.follows_pure {
                      refused := nofun
                      checked := fun params hwrote => by cases hwrote; rfl
                      accepted := fun _ => ⟨row, rfl, henabled, hfits⟩ }
                · rw [if_neg hvalid]
                  refine follows_nextLock fun lock hlock => Program.follows_perform
                    ⟨rfl, rfl, _, rfl, .reject request code row lock hrequest henabled hlock⟩ ?_
                  rintro (cause | written)
                  · exact Program.follows_pure (verifyEnds_refused nofun)
                  · exact Program.follows_pure {
                      refused := nofun
                      checked := fun params hwrote => by cases hwrote; rfl
                      accepted := nofun }
      · rw [if_neg henabled]
        exact Program.follows_pure (verifyEnds_refused (by decide))

/-- What a request other than `Verify2FA` and `Disable2FA` must end with. -/
def WrittenIfOk {α : Type} (session : TotpSession) (outcome : Except Err α) : Prop :=
  ∀ value, outcome = .ok value → session.wrote ≠ none

theorem writtenIfOk_error {α : Type} (session : TotpSession) (err : Err) :
    WrittenIfOk session (.error err : Except Err α) := nofun

theorem follows_setup2FA (draw : SetupDraw) :
    (s.setup2FA draw u).Follows (s.totpSession u (.setup2FA draw u)) WrittenIfOk
      (s.totpSession u (.setup2FA draw u)).first := by
  refine Program.follows_perform ⟨rfl, rfl, rfl⟩ fun read => ?_
  change (s.setup2FAAfter draw u read).Follows _ _ (⟨some read, none, false⟩ : TotpSession)
  unfold setup2FAAfter
  dsimp only
  by_cases henabled : (valueOr .zero read).isEnabled = true
  · rw [if_pos henabled]
    exact Program.follows_pure (writtenIfOk_error _ _)
  · rw [if_neg henabled]
    have hdisabled : (valueOr .zero read).isEnabled = false := eq_false_of_ne_true henabled
    refine Program.follows_bind (Program.follows_perform ⟨⟨draw, rfl⟩, nofun⟩ ?_)
    rintro (cause | found)
    · exact Program.follows_pure (Program.follows_pure (writtenIfOk_error _ _))
    · refine Program.follows_pure ?_
      dsimp only
      split
      · exact Program.follows_pure (writtenIfOk_error _ _)
      · split
        · exact Program.follows_pure (writtenIfOk_error _ _)
        · split
          · exact Program.follows_pure (writtenIfOk_error _ _)
          · refine Program.follows_perform ⟨rfl, rfl, _, rfl, .setup draw read _ _ hdisabled⟩ ?_
            rintro (cause | written)
            · exact Program.follows_pure (writtenIfOk_error _ _)
            · exact Program.follows_pure nofun

theorem follows_confirm2FA (code : Bytes) :
    (s.confirm2FA u code).Follows (s.totpSession u (.confirm2FA u code)) WrittenIfOk
      (s.totpSession u (.confirm2FA u code)).first := by
  refine Program.follows_perform ⟨rfl, rfl, rfl⟩ fun read => ?_
  change (s.confirm2FAAfter u code read).Follows _ _ (⟨some read, none, false⟩ : TotpSession)
  unfold confirm2FAAfter
  cases read with
  | error cause => exact Program.follows_pure (writtenIfOk_error _ _)
  | ok row =>
      dsimp only
      by_cases henabled : row.isEnabled = true
      · rw [if_pos henabled]
        exact Program.follows_pure (writtenIfOk_error _ _)
      · rw [if_neg henabled]
        cases hsecret : s.lib.decrypt row.secretEncrypted with
        | none => exact Program.follows_pure (writtenIfOk_error _ _)
        | some secret =>
            refine Program.follows_readClock fun validated => ?_
            by_cases hvalid : s.lib.totpValidate code secret validated = true
            · rw [if_pos hvalid]
              refine Program.follows_readClock fun now => Program.follows_perform ⟨rfl, rfl, _, rfl,
                .confirm code row now (eq_false_of_ne_true henabled)
                  ⟨secret, hsecret, validated, hvalid⟩⟩ ?_
              rintro (cause | written)
              · exact Program.follows_pure (writtenIfOk_error _ _)
              · exact Program.follows_pure nofun
            · rw [if_neg hvalid]
              exact Program.follows_pure (writtenIfOk_error _ _)

theorem follows_consumeRecoveryCode (code : Bytes) :
    (s.consumeRecoveryCode u code).Follows (s.totpSession u (.consumeRecoveryCode u code))
      WrittenIfOk (s.totpSession u (.consumeRecoveryCode u code)).first := by
  refine Program.follows_perform ⟨rfl, rfl, rfl⟩ fun read => ?_
  change (s.consumeRecoveryCodeAfter u code read).Follows _ _
    (⟨some read, none, false⟩ : TotpSession)
  unfold consumeRecoveryCodeAfter
  cases read with
  | error cause => exact Program.follows_pure (writtenIfOk_error _ _)
  | ok row =>
      dsimp only
      by_cases henabled : row.isEnabled = true
      · rw [if_pos henabled]
        cases hfound : row.recoveryCodesHash.findIdx?
            (fun hash => s.lib.bcryptCompare hash code) with
        | none => exact Program.follows_pure (writtenIfOk_error _ _)
        | some found =>
            obtain ⟨hlength, hcompare, -⟩ := List.findIdx?_eq_some_iff_getElem.mp hfound
            refine Program.follows_perform ⟨rfl, rfl, _, rfl, .consume code row found _ henabled
              (List.getElem?_eq_getElem hlength) hcompare⟩ ?_
            rintro (cause | written)
            · exact Program.follows_pure (writtenIfOk_error _ _)
            · exact Program.follows_pure nofun
      · rw [if_neg henabled]
        exact Program.follows_pure (writtenIfOk_error _ _)

theorem follows_disable2FA (code : Bytes) :
    (s.disable2FA u code).Follows (s.totpSession u (.disable2FA u code))
      (fun session outcome => ∀ value, outcome = .ok value →
        session.wrote ≠ none ∧ session.deleted = true)
      (s.totpSession u (.disable2FA u code)).first := by
  have hverify : (s.verify2FA u code).Follows (s.totpSession u (.disable2FA u code))
      (s.VerifyEnds code) (s.totpSession u (.disable2FA u code)).first :=
    follows_verify2FA ⟨rfl, rfl⟩
  refine Program.follows_bind (hverify.imp fun session outcome hends => ?_)
  cases outcome with
  | error err => exact Program.follows_pure nofun
  | ok value =>
      obtain ⟨row, hread, henabled, hcode⟩ := hends.accepted rfl
      have hwrote : session.wrote ≠ none := fun hnone => (hends.refused hnone).1 rfl
      refine Program.follows_perform
        ⟨rfl, hwrote, code, row, rfl, hread, henabled, hcode⟩ ?_
      rintro (cause | written)
      · exact Program.follows_pure nofun
      · exact Program.follows_pure fun _ _ => ⟨hwrote, rfl⟩

theorem WrittenIfOk.map {α β : Type} {session : TotpSession} {outcome : Except Err α} {f : α → β}
    (hwritten : WrittenIfOk session outcome) : WrittenIfOk session (outcome.map f) := by
  intro answer hok
  cases outcome with
  | error err => exact nomatch hok
  | ok value => exact hwritten value rfl

/-- Every request on the row of a user keeps to its session. -/
theorem follows_call (hrequest : request.IsTotp u) :
    (s.call request).Follows (s.totpSession u request) (s.TotpEnds u request)
      (s.totpSession u request).first := by
  cases request with
  | setup2FA draw userID =>
      obtain rfl : userID = u := hrequest
      exact Program.follows_map ((follows_setup2FA draw).imp fun _ _ hwritten =>
        ⟨hwritten.map, nofun, nofun⟩)
  | confirm2FA userID code =>
      obtain rfl : userID = u := hrequest
      exact Program.follows_map ((follows_confirm2FA code).imp fun _ _ hwritten =>
        ⟨hwritten.map, nofun, nofun⟩)
  | verify2FA userID code =>
      obtain rfl : userID = u := hrequest
      have hchecks : (ServiceCall.verify2FA userID code).ChecksTOTP userID code := ⟨rfl, rfl⟩
      refine Program.follows_map ((follows_verify2FA hchecks).imp fun session outcome hends => ?_)
      have hwritten : WrittenIfOk session outcome :=
        fun _ hok hnone => (hends.refused hnone).1 hok
      refine ⟨hwritten.map, nofun, fun given hgiven => ?_⟩
      obtain rfl : code = given := (ServiceCall.verify2FA.inj hgiven).2
      exact ⟨outcome, hends, rfl⟩
  | consumeRecoveryCode userID code =>
      obtain rfl : userID = u := hrequest
      exact Program.follows_map ((follows_consumeRecoveryCode code).imp fun _ _ hwritten =>
        ⟨hwritten.map, nofun, nofun⟩)
  | disable2FA userID code =>
      obtain rfl : userID = u := hrequest
      refine Program.follows_map ((follows_disable2FA code).imp fun session outcome hends => ?_)
      have hwritten : WrittenIfOk session outcome := fun value hok => (hends value hok).1
      refine ⟨hwritten.map, fun given answer _ hok => ?_, nofun⟩
      cases outcome with
      | error err => exact nomatch hok
      | ok value => exact (hends value rfl).2
  | _ => exact hrequest.elim

end Follows

/-! ## The row between the requests -/

/-- What a call does to the session of its request and to the row. -/
inductive Moves (s : Service) (u : Uuid) (request : ServiceCall) (session : TotpSession)
    (row : Option UserTotpSecret) : Op → TotpSession → Option UserTotpSecret → Prop where
  | read (hfirst : session.read = none) :
      Moves s u request session row (.getTOTPSecret u) { session with read := some (one row) } row
  | lookUp (id : Uuid) (draw : SetupDraw) (hrequest : request = .setup2FA draw u)
      (hread : session.read ≠ none) :
      Moves s u request session row (.getUserByID id) session row
  | write (params : UpsertTOTPSecretParams) (now : Nat) (copy : Except CallError UserTotpSecret)
      (hwrote : session.wrote = none) (hread : session.read = some copy)
      (hwrites : s.Writes u request copy params) :
      Moves s u request session row (.upsertTOTPSecret u params)
        { session with wrote := some params } (some (params.row now row))
  | delete (code : Bytes) (copy : UserTotpSecret) (hrequest : request = .disable2FA u code)
      (hwrote : session.wrote ≠ none) (hread : session.read = some (.ok copy))
      (henabled : copy.isEnabled = true) (hcode : s.CodeFits copy code) :
      Moves s u request session row (.deleteTOTPSecret u) { session with deleted := true } none

theorem moves_of_allowed {u : Uuid} {request : ServiceCall} {session : TotpSession} {op : Op}
    (hallowed : (s.totpSession u request).allowed session op) (now : Nat) (db : Db) :
    Moves s u request session (db.totp u) op (session.after op (serve s.lib now op db).1)
      ((serve s.lib now op db).2.totp u) := by
  cases op with
  | getTOTPSecret userID =>
      obtain ⟨rfl, hfirst, -⟩ := hallowed
      exact .read hfirst
  | getUserByID id =>
      obtain ⟨⟨draw, hrequest⟩, hread⟩ := hallowed
      exact .lookUp id draw hrequest hread
  | upsertTOTPSecret userID params =>
      obtain ⟨rfl, hwrote, copy, hread, hwrites⟩ := hallowed
      have hmove : Moves s userID request session (db.totp userID) (.upsertTOTPSecret userID params)
          { session with wrote := some params } (some (params.row now (db.totp userID))) :=
        .write params now copy hwrote hread hwrites
      rwa [← db.setTotp_self userID (some (params.row now (db.totp userID)))] at hmove
  | deleteTOTPSecret userID =>
      obtain ⟨rfl, hwrote, code, copy, hrequest, hread, henabled, hcode⟩ := hallowed
      have hmove : Moves s userID request session (db.totp userID) (.deleteTOTPSecret userID)
          { session with deleted := true } none :=
        .delete code copy hrequest hwrote hread henabled hcode
      rwa [← db.setTotp_self userID none] at hmove
  | _ => exact hallowed.elim

section Pool

variable {Thread : Type} [DecidableEq Thread] (s)

/-- The session every request has come to. -/
def sessions (u : Uuid) (request : Thread → ServiceCall) (pool : s.CallPool Thread)
    (thread : Thread) : TotpSession :=
  (s.totpSession u (request thread)).along thread pool.trace

variable {s} {u : Uuid} {request : Thread → ServiceCall} {start : Db}
  {allowed : s.CallPool Thread → Thread → Op → Prop} {pool last : s.CallPool Thread}

theorem sessions_advance (thread : Thread) (now : Nat) (readings : Nat → Nat) (op : Op)
    (next : op.Resp → Prog s.Outcome) :
    s.sessions u request (pool.advance (serve s.lib) thread now readings op next) =
      Function.update (s.sessions u request pool) thread
        ((s.sessions u request pool thread).after op (serve s.lib now op pool.store).1) :=
  Session.along_advance ..

section Run

variable (hrequests : ∀ thread, (request thread).IsTotp u)

include hrequests

theorem totp_follows (hreach : Pool.Reaches (serve s.lib) allowed (s.startPool start request) last)
    (thread : Thread) :
    (last.program thread).Follows (s.totpSession u (request thread))
      (s.TotpEnds u (request thread)) (s.sessions u request last thread) :=
  hreach.follows rfl (fun thread => follows_call (hrequests thread)) thread

/-- The next call of a program moves its session and the row. -/
theorem totp_moves (hreach : Pool.Reaches (serve s.lib) allowed (s.startPool start request) pool)
    {thread : Thread} {op : Op} {next : op.Resp → Prog s.Outcome}
    (hprogram : pool.program thread = .call op next) (now : Nat) :
    Moves s u (request thread) (s.sessions u request pool thread) (pool.store.totp u) op
      ((s.sessions u request pool thread).after op (serve s.lib now op pool.store).1)
      ((serve s.lib now op pool.store).2.totp u) := by
  have hfollows := totp_follows hrequests hreach thread
  rw [hprogram] at hfollows
  exact moves_of_allowed hfollows.1 now pool.store

/-- What holds of the fresh sessions and the stored row and is kept by every move holds
throughout. -/
theorem totp_invariant {motive : (Thread → TotpSession) → Option UserTotpSecret → Prop}
    (hreach : Pool.Reaches (serve s.lib) allowed (s.startPool start request) last)
    (hstart : motive (fun _ => {}) (start.totp u))
    (hmoves : ∀ pool thread op session row, motive (s.sessions u request pool) (pool.store.totp u) →
      allowed pool thread op →
      Moves s u (request thread) (s.sessions u request pool thread) (pool.store.totp u) op session
        row →
      motive (Function.update (s.sessions u request pool) thread session) row) :
    motive (s.sessions u request last) (last.store.totp u) := by
  apply hreach.invariant (motive := fun pool =>
    motive (s.sessions u request pool) (pool.store.totp u))
  · exact hstart
  · intro pool thread now readings op next hpool hmotive hprogram hallowed
    have hmove := totp_moves hrequests hpool hprogram now
    rw [sessions_advance]
    exact hmoves pool thread op _ _ hmotive hallowed hmove

end Run

end Pool

end Service

end Skolva.Auth
