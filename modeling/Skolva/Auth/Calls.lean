import Skolva.Auth.LoginFaults
import Skolva.Effect.History
import Skolva.Effect.Pool

/-! # The methods of the service as calls

A call is a method of the service with its arguments and with what is drawn while
it runs.
-/

namespace Skolva.Auth

open Effect

inductive ServiceCall where
  | login (draw : LoginDraw) (email : String) (password : Bytes)
  | register (id : Uuid) (salt : Nat) (actorID : Uuid) (email : String) (password : Bytes)
      (firstName lastName : String)
  | getUser (id : Uuid)
  | updateUser (actorID id : Uuid) (firstName lastName : String) (isActive : Option Bool)
  | deleteUser (actorID id : Uuid)
  | setup2FA (draw : SetupDraw) (userID : Uuid)
  | confirm2FA (userID : Uuid) (code : Bytes)
  | verify2FA (userID : Uuid) (code : Bytes)
  | consumeRecoveryCode (userID : Uuid) (code : Bytes)
  | disable2FA (userID : Uuid) (code : Bytes)
  | issueAccessForUser (jti userID : Uuid)
  | setupEmail2FA (draw : OTPDraw) (userID : Uuid)
  | confirmEmail2FA (userID : Uuid) (code : Bytes)
  | sendEmail2FALoginOTP (draw : OTPDraw) (userID : Uuid)
  | verifyEmail2FALogin (userID : Uuid) (code : Bytes)
  | disableEmail2FA (userID : Uuid)
  | forgotPassword (draw : ResetDraw) (email : String)
  | resetPassword (salt : Nat) (userID : Uuid) (token newPassword : Bytes)

/-- The call can write keys of email codes of this user. -/
def ServiceCall.TouchesEmail2FA (u : Uuid) : ServiceCall → Prop
  | .login .. => True
  | .setupEmail2FA _ userID | .confirmEmail2FA userID _ | .sendEmail2FALoginOTP _ userID
  | .verifyEmail2FALogin userID _ | .disableEmail2FA userID => u = userID
  | _ => False

/-- The call can write keys of password resets. -/
def ServiceCall.TouchesReset : ServiceCall → Prop
  | .forgotPassword .. | .resetPassword .. => True
  | _ => False

/-- The call can write the TOTP row of this user. -/
def ServiceCall.TouchesTotp (u : Uuid) : ServiceCall → Prop
  | .setup2FA _ userID | .confirm2FA userID _ | .verify2FA userID _
  | .consumeRecoveryCode userID _ | .disable2FA userID _ => u = userID
  | _ => False

/-- The writes a call can make. Everything can be read, and every mail sent. -/
def ServiceCall.Writes (request : ServiceCall) : Op → Prop
  | .createUser id email _ firstName lastName _ =>
      ∃ salt actorID password,
        request = .register id salt actorID email password firstName lastName
  | .updateUser id firstName lastName _ _ =>
      ∃ actorID isActive, request = .updateUser actorID id firstName lastName isActive
  | .softDeleteUser id _ => ∃ actorID, request = .deleteUser actorID id
  | .updatePassword id _ =>
      ∃ salt token newPassword, request = .resetPassword salt id token newPassword
  | .upsertTOTPSecret u _ | .deleteTOTPSecret u => request.TouchesTotp u
  | .metaSet u key _ | .metaDelete u key =>
      (request.TouchesEmail2FA u ∧ key.IsEmail2FA) ∨ (request.TouchesReset ∧ key.IsReset)
  | _ => True

/-- One database or mail call of one of several requests. -/
abbrev CallEvent (Thread : Type) := Event Thread Nat Op Op.Resp

/-- What a method returns beside its error. -/
inductive Answer (Token : Type) where
  | done
  | user (response : UserResponse)
  | setup (provisioningURI : String) (recoveryCodes : List Bytes)
  | token (token : Token)
  | login (result : LoginResult Token)
  deriving DecidableEq

namespace Service

variable (s : Service)

abbrev Outcome := Except Err (Answer s.lib.Token)

/-- The result of a method as an answer. -/
def answering {α : Type} (answer : α → Answer s.lib.Token) (method : Prog (Except Err α)) :
    Prog s.Outcome :=
  (Except.map answer) <$> method

def call : ServiceCall → Prog s.Outcome
  | .login draw email password => s.answering .login (s.login draw email password)
  | .register id salt actorID email password firstName lastName =>
      s.answering .user (s.register id salt actorID email password firstName lastName)
  | .getUser id => s.answering .user (getUser id)
  | .updateUser actorID id firstName lastName isActive =>
      s.answering .user (updateUser actorID id firstName lastName isActive)
  | .deleteUser actorID id => s.answering (fun _ => .done) (deleteUser actorID id)
  | .setup2FA draw userID =>
      s.answering (fun result => .setup result.1 result.2) (s.setup2FA draw userID)
  | .confirm2FA userID code => s.answering (fun _ => .done) (s.confirm2FA userID code)
  | .verify2FA userID code => s.answering (fun _ => .done) (s.verify2FA userID code)
  | .consumeRecoveryCode userID code =>
      s.answering (fun _ => .done) (s.consumeRecoveryCode userID code)
  | .disable2FA userID code => s.answering (fun _ => .done) (s.disable2FA userID code)
  | .issueAccessForUser jti userID => s.answering .token (s.issueAccessForUser jti userID)
  | .setupEmail2FA draw userID => s.answering (fun _ => .done) (s.setupEmail2FA draw userID)
  | .confirmEmail2FA userID code => s.answering (fun _ => .done) (s.confirmEmail2FA userID code)
  | .sendEmail2FALoginOTP draw userID =>
      s.answering (fun _ => .done) (s.sendEmail2FALoginOTP draw userID)
  | .verifyEmail2FALogin userID code =>
      s.answering (fun _ => .done) (s.verifyEmail2FALogin userID code)
  | .disableEmail2FA userID => s.answering (fun _ => .done) (disableEmail2FA userID)
  | .forgotPassword draw email => s.answering (fun _ => .done) (s.forgotPassword draw email)
  | .resetPassword salt userID token newPassword =>
      s.answering (fun _ => .done) (s.resetPassword salt userID token newPassword)

/-- Run a call on its own. -/
def processCall (now : Nat) (request : ServiceCall) (db : Db) : s.Outcome × Db :=
  (s.call request).run (serve s.lib) now db

abbrev CallEntry := Entry ServiceCall s.Outcome Db

/-- The entry of a call in this state. -/
def entryAt (now : Nat) (request : ServiceCall) (before : Db) : s.CallEntry :=
  ⟨before, now, request, (s.processCall now request before).1,
    (s.processCall now request before).2⟩

theorem processCall_entryAt (now : Nat) (request : ServiceCall) (before : Db) :
    s.processCall (s.entryAt now request before).instant (s.entryAt now request before).request
        (s.entryAt now request before).before =
      ((s.entryAt now request before).reply, (s.entryAt now request before).after) := rfl

/-- Runs of calls under a non-decreasing clock. -/
def CallRun (start : Db) : List s.CallEntry → Db → Prop :=
  Serial s.processCall (fun history now _ => ClockForward history now) start

abbrev CallPool (Thread : Type) := Pool Thread Nat Op Op.Resp s.Outcome Db

/-- Every thread is about to run its request. -/
def startPool {Thread : Type} (db : Db) (request : Thread → ServiceCall) : s.CallPool Thread :=
  .start db fun thread => s.call (request thread)

variable {s}

/-- A run of one call. -/
theorem callRun_first (start : Db) (now : Nat) (request : ServiceCall) :
    s.CallRun start [s.entryAt now request start] (s.entryAt now request start).after :=
  Serial.cons now request Serial.nil fun _ hentry => absurd hentry (Option.not_mem_none _)

/-- One more call, no earlier than the latest. -/
theorem callRun_next {start : Db} {latest : s.CallEntry} {history : List s.CallEntry}
    (hrun : s.CallRun start (latest :: history) latest.after) (now : Nat) (request : ServiceCall)
    (hclock : latest.instant ≤ now) :
    s.CallRun start (s.entryAt now request latest.after :: latest :: history)
      (s.entryAt now request latest.after).after := by
  refine Serial.cons now request hrun fun entry hentry => ?_
  obtain rfl := Option.some.inj hentry
  exact hclock

theorem callRun_forward : ∀ (history : List s.CallEntry) (now : Nat) (_ : ServiceCall),
    ClockForward history now → ClockForward history now :=
  fun _ _ _ hforward => hforward

theorem run_answering {α : Type} (answer : α → Answer s.lib.Token)
    (method : Prog (Except Err α)) (now : Nat) (db : Db) :
    (s.answering answer method).run (serve s.lib) now db =
      ((method.run (serve s.lib) now db).1.map answer, (method.run (serve s.lib) now db).2) :=
  Program.run_map ..

section Answered

variable {α : Type} {request : ServiceCall} {answer : α → Answer s.lib.Token}
  {method : Prog (Except Err α)}

/-- A call replies what its method answers, and leaves the state that the method leaves. -/
theorem processCall_eq (hcall : s.call request = s.answering answer method) (now : Nat) (db : Db) :
    s.processCall now request db =
      ((method.run (serve s.lib) now db).1.map answer, (method.run (serve s.lib) now db).2) := by
  unfold processCall
  rw [hcall, run_answering]

theorem processCall_answered (hcall : s.call request = s.answering answer method) {now : Nat}
    {before after : Db} {reply : s.Outcome}
    (hprocess : s.processCall now request before = (reply, after)) :
    reply = (method.run (serve s.lib) now before).1.map answer ∧
      after = (method.run (serve s.lib) now before).2 := by
  rw [processCall_eq hcall] at hprocess
  obtain ⟨hreply, hafter⟩ := Prod.mk.inj hprocess
  exact ⟨hreply.symm, hafter.symm⟩

end Answered

/-! ## What a call leaves alone -/

/-- A call makes no other writes than its own. -/
theorem uses_call (request : ServiceCall) : (s.call request).Uses request.Writes := by
  cases request with
  | login draw email password =>
      exact Program.uses_map (s.uses_login draw password trivial (fun _ => trivial)
        (fun _ => trivial) (fun _ => trivial) (fun _ => trivial) (fun _ _ => trivial)
        (fun _ _ _ hkey => .inl ⟨trivial, hkey⟩) (fun _ _ hkey => .inl ⟨trivial, hkey⟩)
        fun _ => trivial)
  | register id salt actorID email password firstName lastName =>
      exact Program.uses_map (s.uses_register salt actorID password trivial
        fun _ _ => ⟨salt, actorID, password, rfl⟩)
  | getUser id => exact Program.uses_map (uses_getUser trivial)
  | updateUser actorID id firstName lastName isActive =>
      exact Program.uses_map (uses_updateUser actorID isActive trivial
        fun _ => ⟨actorID, isActive, rfl⟩)
  | deleteUser actorID id =>
      exact Program.uses_map (uses_deleteUser actorID trivial ⟨actorID, rfl⟩)
  | setup2FA draw userID =>
      exact Program.uses_map (s.uses_setup2FA draw trivial trivial fun _ => rfl)
  | confirm2FA userID code =>
      exact Program.uses_map (s.uses_confirm2FA code trivial fun _ => rfl)
  | verify2FA userID code =>
      exact Program.uses_map (s.uses_verify2FA code trivial fun _ => rfl)
  | consumeRecoveryCode userID code =>
      exact Program.uses_map (s.uses_consumeRecoveryCode code trivial fun _ => rfl)
  | disable2FA userID code =>
      exact Program.uses_map (s.uses_disable2FA code trivial (fun _ => rfl) rfl)
  | issueAccessForUser jti userID =>
      exact Program.uses_map (s.uses_issueAccessForUser jti trivial trivial trivial)
  | setupEmail2FA draw userID =>
      exact Program.uses_map (s.uses_setupEmail2FA (fun _ => trivial)
        (fun _ _ hkey => .inl ⟨rfl, hkey⟩) (fun _ hkey => .inl ⟨rfl, hkey⟩) (fun _ => trivial)
        trivial draw)
  | confirmEmail2FA userID code =>
      exact Program.uses_map (s.uses_confirmEmail2FA (fun _ => trivial)
        (fun _ _ hkey => .inl ⟨rfl, hkey⟩) (fun _ hkey => .inl ⟨rfl, hkey⟩) code)
  | sendEmail2FALoginOTP draw userID =>
      exact Program.uses_map (s.uses_sendEmail2FALoginOTP (fun _ => trivial)
        (fun _ _ hkey => .inl ⟨rfl, hkey⟩) (fun _ hkey => .inl ⟨rfl, hkey⟩) (fun _ => trivial)
        trivial draw)
  | verifyEmail2FALogin userID code =>
      exact Program.uses_map (s.uses_verifyEmail2FALogin (fun _ => trivial)
        (fun _ _ hkey => .inl ⟨rfl, hkey⟩) (fun _ hkey => .inl ⟨rfl, hkey⟩) code)
  | disableEmail2FA userID =>
      exact Program.uses_map (uses_disableEmail2FA fun _ hkey => .inl ⟨rfl, hkey⟩)
  | forgotPassword draw email =>
      exact Program.uses_map (s.uses_forgotPassword draw trivial
        (fun _ _ _ hkey => .inr ⟨trivial, hkey⟩) (fun _ _ hkey => .inr ⟨trivial, hkey⟩)
        fun _ => trivial)
  | resetPassword salt userID token newPassword =>
      exact Program.uses_map (s.uses_resetPassword salt token newPassword trivial
        (fun _ => trivial) (fun _ _ => ⟨salt, token, newPassword, rfl⟩)
        fun _ => .inr ⟨trivial, trivial⟩)

/-- What the writes of a call preserve, the call preserves. -/
theorem processCall_preserves {request : ServiceCall} {motive : Db → Prop} {now : Nat}
    (hserve : ∀ op db, request.Writes op → motive db → motive (serve s.lib now op db).2) {db : Db}
    (hdb : motive db) : motive (s.processCall now request db).2 :=
  Program.run_preserves (serve s.lib) now (uses_call request) hserve hdb

/-- A call writes no other keys than those of its module and user. -/
theorem processCall_meta {request : ServiceCall} {u : Uuid} {key : MetaKey}
    (hemail : request.TouchesEmail2FA u → ¬key.IsEmail2FA)
    (hreset : request.TouchesReset → ¬key.IsReset) (now : Nat) (db : Db) :
    (s.processCall now request db).2.usersMeta u key = db.usersMeta u key := by
  have hkey : ∀ {v : Uuid} {written : MetaKey},
      (request.TouchesEmail2FA v ∧ written.IsEmail2FA) ∨
        (request.TouchesReset ∧ written.IsReset) → ¬(u = v ∧ key = written) := by
    rintro v written (⟨htouch, hwritten⟩ | ⟨htouch, hwritten⟩) ⟨rfl, rfl⟩
    · exact hemail htouch hwritten
    · exact hreset htouch hwritten
  refine processCall_preserves (motive := fun store => store.usersMeta u key = db.usersMeta u key)
    (fun op store hop hstore => ?_) rfl
  have hleaves : op.LeavesMeta u key := by
    cases op with
    | metaSet v written value => exact hkey hop
    | metaDelete v written => exact hkey hop
    | _ => trivial
  exact (serve_meta s.lib now store hleaves).trans hstore

/-- A call writes no other TOTP row than that of its user. -/
theorem processCall_totp {request : ServiceCall} {u : Uuid} (hother : ¬request.TouchesTotp u)
    (now : Nat) (db : Db) : (s.processCall now request db).2.totp u = db.totp u := by
  refine processCall_preserves (motive := fun store => store.totp u = db.totp u)
    (fun op store hop hstore => ?_) rfl
  have hleaves : op.LeavesTotp u := by
    cases op with
    | upsertTOTPSecret v params => exact fun hsame => hother (hsame ▸ hop)
    | deleteTOTPSecret v => exact fun hsame => hother (hsame ▸ hop)
    | _ => trivial
  exact (serve_totp s.lib now store hleaves).trans hstore

end Service

end Skolva.Auth
