import Skolva.Auth.EndpointCalls
import Skolva.Effect.Simulation

/-! # What a handler can do

It is what the method that it calls can do. Only the handlers that exchange a pending token call
a second method, which issues the new one.
-/

namespace Skolva.Auth

open Effect

variable {s : Service} {instants : Nat → Prop} {allowed : Op → Prop}

theorem uses_method {α : Type} (call : ServiceCall) {answer : α → Answer s.lib.Token}
    {method : Prog (Except Err α)} (hcall : s.call call = s.answering answer method)
    (huses : (s.call call).Uses allowed) : method.Uses allowed := by
  rw [hcall] at huses
  exact Program.uses_of_map huses

theorem uses_noContentAfter {method : Prog (Except Err Unit)} (huses : method.Uses allowed) :
    (Handler.noContentAfter s method).Uses allowed := by
  refine Program.uses_bind huses fun result => ?_
  cases result <;> exact Program.uses_pure _

/-- What comes after the check of a pending token has the user whom the token names at the instant
of the check. -/
theorem usesAt_afterPending {β : Type} {tempToken : s.lib.Token} {rest : Except Err Uuid → Prog β}
    (herror : ∀ err, (rest (.error err)).Uses allowed)
    (huser : ∀ now, instants now → ∀ userID, s.pendingUser now tempToken = some userID →
      (rest (.ok userID)).Uses allowed) :
    (Handler.pending2FAUser s tempToken >>= rest).UsesAt instants allowed := by
  intro now hnow
  have huser := huser now hnow
  unfold Service.pendingUser at huser
  simp only [Program.bind, pure]
  cases hparse : s.lib.jwtParse s.tm.secret tempToken with
  | none => exact (herror _).usesAt
  | some claims =>
      rw [hparse] at huser
      dsimp only at huser ⊢
      by_cases hvalid : claims.ValidAt now
      · by_cases hkind : claims.kind = tokenKindPending2FA
        · rw [if_pos ⟨hvalid, hkind⟩] at huser
          simp only [if_pos hvalid, if_pos hkind, Program.bind]
          cases hsubject : s.lib.uuidParse claims.subject with
          | none => exact (herror _).usesAt
          | some userID => exact (huser userID hsubject).usesAt
        · simp only [if_pos hvalid, if_neg hkind, Program.bind]
          exact (herror _).usesAt
      · simp only [if_neg hvalid, Program.bind]
        exact (herror _).usesAt

/-- The method of a call, and what is made of its result. -/
theorem uses_answered {α β : Type} (call : ServiceCall) {answer : α → Answer s.lib.Token}
    {method : Prog (Except Err α)} {next : Except Err α → Prog β}
    (hcall : s.call call = s.answering answer method) (huses : (s.call call).Uses allowed)
    (hnext : ∀ result, (next result).Uses allowed) : (method >>= next).Uses allowed :=
  Program.uses_bind (uses_method call hcall huses) hnext

theorem usesAt_withSecondFactor (jti : Uuid) (req : Verify2FARequest s.lib.Token)
    {check : Uuid → Bytes → Prog (Except Err Unit)} (call : Uuid → Bytes → ServiceCall)
    (hcall : ∀ u code, s.call (call u code) = s.answering (fun _ => .done) (check u code))
    (huses : ∀ now, instants now → ∀ userID, s.pendingUser now req.tempToken = some userID →
      (s.call (call userID req.code)).Uses allowed)
    (hissue : ∀ userID, (s.call (.issueAccessForUser jti userID)).Uses allowed) :
    (Handler.withSecondFactor s jti (some req) check).UsesAt instants allowed := by
  refine usesAt_afterPending (fun err => Program.uses_pure _) fun now hnow userID huser => ?_
  refine uses_answered _ (hcall userID req.code) (huses now hnow userID huser) fun checked => ?_
  split
  · exact Program.uses_pure _
  · refine uses_answered (.issueAccessForUser jti userID) rfl (hissue userID) fun issued => ?_
    split <;> exact Program.uses_pure _

/-- A handler that is given no pending token makes no other calls than the method that it can come
to, in which the clock has no say. -/
theorem uses_handle_of_presented {request : Request s.lib.Token} {now : Nat}
    (hpresented : request.presented = [])
    (hcalls : ∀ call, s.callOf now request = some call → (s.call call).Uses allowed) :
    (Handler.handle s request).Uses allowed := by
  cases request with
  | login draw body =>
      cases body with
      | none => exact Program.uses_pure _
      | some req =>
          refine uses_answered _ rfl (hcalls _ rfl) fun result => ?_
          cases result with
          | error err => exact Program.uses_pure _
          | ok result =>
              dsimp only
              split <;> exact Program.uses_pure _
  | register id salt actor body =>
      cases body with
      | none => exact Program.uses_pure _
      | some req =>
          refine uses_answered _ rfl (hcalls _ rfl) fun result => ?_
          cases result <;> exact Program.uses_pure _
  | getUser id =>
      simp only [Handler.handle, Handler.getUser, Handler.withUserID]
      cases hid : s.lib.uuidParse id with
      | none => exact Program.uses_pure _
      | some userID =>
          have huses := hcalls (.getUser userID) (congrArg (Option.map _) hid)
          refine uses_answered _ rfl huses fun result => ?_
          cases result <;> exact Program.uses_pure _
  | updateUser actor id body =>
      simp only [Handler.handle, Handler.updateUser, Handler.withUserID]
      cases hid : s.lib.uuidParse id with
      | none => exact Program.uses_pure _
      | some userID =>
          cases body with
          | none => exact Program.uses_pure _
          | some req =>
              have huses := hcalls (.updateUser actor userID req.firstName req.lastName
                req.isActive) (congrArg (Option.bind · _) hid)
              refine uses_answered _ rfl huses fun result => ?_
              cases result <;> exact Program.uses_pure _
  | deleteUser actor id =>
      simp only [Handler.handle, Handler.deleteUser, Handler.withUserID]
      cases hid : s.lib.uuidParse id with
      | none => exact Program.uses_pure _
      | some userID =>
          have huses := hcalls (.deleteUser actor userID) (congrArg (Option.map _) hid)
          exact uses_noContentAfter (uses_method _ rfl huses)
  | setup2FA draw actor =>
      refine uses_answered _ rfl (hcalls _ rfl) fun result => ?_
      split <;> exact Program.uses_pure _
  | confirm2FA actor body | disable2FA actor body | confirmEmail2FA actor body =>
      cases body with
      | none => exact Program.uses_pure _
      | some code => exact uses_noContentAfter (uses_method _ rfl (hcalls _ rfl))
  | verify2FA jti body | recover2FA jti body | verifyEmail2FA jti body =>
      cases body with
      | none => exact Program.uses_pure _
      | some req => exact absurd hpresented (List.cons_ne_nil _ _)
  | resendEmail2FA draw body =>
      cases body with
      | none => exact Program.uses_pure _
      | some tempToken => exact absurd hpresented (List.cons_ne_nil _ _)
  | setupEmail2FA draw actor =>
      exact uses_noContentAfter
        (uses_method _ rfl (hcalls (.setupEmail2FA draw actor) rfl))
  | disableEmail2FA actor =>
      exact uses_noContentAfter
        (uses_method _ rfl (hcalls (.disableEmail2FA actor) rfl))
  | forgotPassword draw body =>
      cases body with
      | none => exact Program.uses_pure _
      | some email =>
          refine uses_answered _ rfl (hcalls _ rfl) fun result => ?_
          cases result <;> exact Program.uses_pure _
  | resetPassword salt body =>
      cases body with
      | none => exact Program.uses_pure _
      | some req =>
          simp only [Handler.handle, Handler.resetPassword]
          cases hid : s.lib.uuidParse req.userID with
          | none => exact Program.uses_pure _
          | some userID =>
              have huses := hcalls (.resetPassword salt userID req.token req.password)
                (congrArg (Option.map _) hid)
              exact uses_noContentAfter (uses_method _ rfl huses)

/-- A handler makes no other calls than the methods that it can come to at these instants. -/
theorem usesAt_handle_of_calls {request : Request s.lib.Token} {first : Nat}
    (hfirst : instants first)
    (hcalls : ∀ now, instants now → ∀ call, s.callOf now request = some call →
      (s.call call).Uses allowed)
    (hissue : ∀ jti userID, (s.call (.issueAccessForUser jti userID)).Uses allowed) :
    (Handler.handle s request).UsesAt instants allowed := by
  by_cases hpresented : request.presented = []
  · exact (uses_handle_of_presented hpresented (hcalls first hfirst)).usesAt
  · cases request with
    | verify2FA jti body =>
        cases body with
        | none => exact absurd rfl hpresented
        | some req =>
            refine usesAt_withSecondFactor jti req .verify2FA (fun _ _ => rfl) ?_ (hissue jti)
            exact fun now hnow userID huser => hcalls now hnow _ (congrArg (Option.map _) huser)
    | recover2FA jti body =>
        cases body with
        | none => exact absurd rfl hpresented
        | some req =>
            refine usesAt_withSecondFactor jti req .consumeRecoveryCode (fun _ _ => rfl) ?_
              (hissue jti)
            exact fun now hnow userID huser => hcalls now hnow _ (congrArg (Option.map _) huser)
    | verifyEmail2FA jti body =>
        cases body with
        | none => exact absurd rfl hpresented
        | some req =>
            refine usesAt_withSecondFactor jti req .verifyEmail2FALogin (fun _ _ => rfl) ?_
              (hissue jti)
            exact fun now hnow userID huser => hcalls now hnow _ (congrArg (Option.map _) huser)
    | resendEmail2FA draw body =>
        cases body with
        | none => exact absurd rfl hpresented
        | some tempToken =>
            refine usesAt_afterPending (fun err => Program.uses_pure _)
              fun now hnow userID huser => ?_
            have huses := hcalls now hnow (.sendEmail2FALoginOTP draw userID)
              (congrArg (Option.map _) huser)
            exact uses_noContentAfter (uses_method _ rfl huses)
    | _ => exact absurd rfl hpresented

/-- Whatever the clock shows, it makes no other calls than the methods that it can come to. -/
theorem uses_handle_of_calls {request : Request s.lib.Token}
    (hcalls : ∀ now call, s.callOf now request = some call → (s.call call).Uses allowed)
    (hissue : ∀ jti userID, (s.call (.issueAccessForUser jti userID)).Uses allowed) :
    (Handler.handle s request).Uses allowed := by
  have hany : (Handler.handle s request).UsesAt (fun _ => True) allowed :=
    @usesAt_handle_of_calls _ _ _ _ 0 trivial (fun now _ => hcalls now) hissue
  exact hany.uses

end Skolva.Auth
