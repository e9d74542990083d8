import Skolva.Auth.Calls
import Skolva.Auth.Login

/-! # Password reset as an abstract machine

For each user the machine remembers the last token that was sent and whether it has
been used. The three keys of `users_meta` encode it in every run of the service.
-/

namespace Skolva.Auth

open Effect Time

/-! ## The machine -/

/-- A token that has been sent and not been replaced by another one. -/
structure PendingReset where
  token : Bytes
  mintedAt : Nat
  used : Bool

abbrev ResetMachine := Uuid → Option PendingReset

namespace ResetMachine

variable (machine : ResetMachine)

def mint (u : Uuid) (token : Bytes) (now : Nat) : ResetMachine :=
  Function.update machine u (some ⟨token, now, false⟩)

def use (u : Uuid) : ResetMachine :=
  Function.update machine u ((machine u).map fun pending => { pending with used := true })

/-- The token is the last one sent to the user, is unused, and an hour has not passed. -/
def Accepts (now : Nat) (u : Uuid) (token : Bytes) : Prop :=
  ∃ pending ∈ machine u, pending.token = token ∧ pending.used = false ∧
    now ≤ truncate (pending.mintedAt + resetTokenExpiry)

end ResetMachine

variable (s : Service)

/-- A `ForgotPassword` mints for the user it finds, and a successful `ResetPassword` uses. -/
def Service.stepReset (entry : s.CallEntry) (machine : ResetMachine) : ResetMachine :=
  match entry.request with
  | .forgotPassword draw email =>
      match entry.before.userWithEmail s.lib.lower email with
      | none => machine
      | some user => machine.mint user.id (draw.plain s.lib) entry.instant
  | .resetPassword _ userID _ _ =>
      match entry.reply with
      | .error _ => machine
      | .ok _ => machine.use userID
  | _ => machine

/-- The machine after a history. -/
def Service.machineAfter (machine : ResetMachine) (history : List s.CallEntry) : ResetMachine :=
  history.foldr s.stepReset machine

/-- The keys of a user encode what the machine remembers. -/
def Service.EncodesPending (db : Db) (u : Uuid) : Option PendingReset → Prop
  | none => db.usersMeta u .resetTokenHash = none
  | some pending =>
      (∃ salt hash, s.lib.bcryptGenerate salt pending.token = some hash ∧
        db.usersMeta u .resetTokenHash = some hash) ∧
      db.usersMeta u .resetExpiresAt = some (formatRFC3339 (pending.mintedAt + resetTokenExpiry)) ∧
      (db.usersMeta u .resetUsed = some textTrue ↔ pending.used = true)

def Service.EncodesReset (db : Db) (machine : ResetMachine) : Prop :=
  ∀ u, s.EncodesPending db u (machine u)

section Refinement

variable {s} {machine : ResetMachine} {db db' : Db} {u : Uuid}

/-- Without reset keys nothing is pending. -/
theorem encodesReset_of_no_keys (hnone : ∀ u key, key.IsReset → db.usersMeta u key = none) :
    s.EncodesReset db fun _ => none :=
  fun u => hnone u .resetTokenHash trivial

theorem encodesPending_of_keys {pending : Option PendingReset}
    (hkeys : ∀ key, key.IsReset → db'.usersMeta u key = db.usersMeta u key)
    (hpending : s.EncodesPending db u pending) : s.EncodesPending db' u pending := by
  cases pending with
  | none => exact (hkeys .resetTokenHash trivial).trans hpending
  | some pending =>
      unfold Service.EncodesPending
      rw [hkeys .resetTokenHash trivial, hkeys .resetExpiresAt trivial, hkeys .resetUsed trivial]
      exact hpending

/-- With an ideal `bcrypt`, a live token is one that the machine accepts. -/
theorem liveReset_iff_accepts (hbcrypt : s.lib.IdealBcrypt) (hencodes : s.EncodesReset db machine)
    (now : Nat) (token : Bytes) : s.LiveReset db now u token ↔ machine.Accepts now u token := by
  have hpending := hencodes u
  unfold Service.LiveReset ResetMachine.Accepts
  cases hmachine : machine u with
  | none =>
      rw [hmachine] at hpending
      simp [show db.usersMeta u .resetTokenHash = none from hpending]
  | some pending =>
      rw [hmachine] at hpending
      obtain ⟨⟨salt, hash, hgenerate, hhash⟩, hexpires, hused⟩ := hpending
      have hcompare : s.lib.bcryptCompare hash token = true ↔ token = pending.token :=
        hbcrypt.compare_iff salt pending.token hash hgenerate token
      have hunused : db.usersMeta u .resetUsed ≠ some textTrue ↔ pending.used = false := by
        rw [Ne, hused, Bool.not_eq_true]
      rw [hunused, hexpires, hhash]
      constructor
      · rintro ⟨hfresh, ⟨instant, hinstant, hle⟩, _, hstored, haccepts⟩
        obtain rfl := Option.some.inj hinstant
        obtain rfl := Option.some.inj hstored
        exact ⟨pending, rfl, (hcompare.mp haccepts).symm, hfresh, hle⟩
      · rintro ⟨_, hsome, htoken, hfresh, hle⟩
        obtain rfl := Option.some.inj hsome
        exact ⟨hfresh, ⟨_, rfl, hle⟩, hash, rfl, hcompare.mpr htoken.symm⟩

/-! ## One call -/

theorem encodes_mint (hencodes : s.EncodesReset db machine) {draw : ResetDraw} {now : Nat}
    {user : User} {hash : Text}
    (hgenerate : s.lib.bcryptGenerate draw.salt (draw.plain s.lib) = some hash) :
    s.EncodesReset (s.mintReset draw db now user hash)
      (machine.mint user.id (draw.plain s.lib) now) := by
  intro v
  unfold ResetMachine.mint
  by_cases howner : v = user.id
  · subst howner
    rw [Function.update_self]
    refine ⟨⟨draw.salt, hash, hgenerate, ?_⟩, ?_, ?_⟩
    · simp [Service.mintReset, Db.setMeta_apply]
    · simp [Service.mintReset, Db.setMeta_apply]
    · simp [Service.mintReset]
  · rw [Function.update_of_ne howner]
    apply encodesPending_of_keys _ (hencodes v)
    intro key _
    simp [Service.mintReset, Db.setMeta_otherUser, howner]

theorem encodes_use (hencodes : s.EncodesReset db machine) (now : Nat) (hash : Text) :
    s.EncodesReset (Service.useReset db now u hash) (machine.use u) := by
  intro v
  unfold ResetMachine.use
  by_cases howner : v = u
  · subst howner
    rw [Function.update_self]
    have hpending := hencodes v
    cases hmachine : machine v with
    | none =>
        rw [hmachine] at hpending
        exact (Db.setMeta_otherKey _ v v _ (by decide)).trans hpending
    | some pending =>
        rw [hmachine] at hpending
        obtain ⟨⟨salt, stored, hgenerate, hstored⟩, hexpires, -⟩ := hpending
        refine ⟨⟨salt, stored, hgenerate, ?_⟩, ?_, ?_⟩
        · exact (Db.setMeta_otherKey _ v v _ (by decide)).trans hstored
        · exact (Db.setMeta_otherKey _ v v _ (by decide)).trans hexpires
        · simp [Service.useReset]
  · rw [Function.update_of_ne howner]
    apply encodesPending_of_keys _ (hencodes v)
    intro key _
    exact Db.setMeta_otherUser _ _ _ _ howner

/-- `ResetPassword` replaces the password and uses the token, or it changes nothing. -/
theorem processCall_resetPassword (now salt : Nat) (db : Db) (u : Uuid)
    (token newPassword : Bytes) :
    ((db.liveUser u).isSome = true ∧ s.LiveReset db now u token ∧
      ∃ hash, hashPassword s.lib salt newPassword = .ok hash ∧
        s.processCall now (.resetPassword salt u token newPassword) db =
          (.ok .done, Service.useReset db now u hash)) ∨
    (¬((db.liveUser u).isSome = true ∧ s.LiveReset db now u token ∧
        ∃ hash, hashPassword s.lib salt newPassword = .ok hash) ∧
      ∃ err, s.processCall now (.resetPassword salt u token newPassword) db = (.error err, db)) := by
  rw [show s.processCall now (.resetPassword salt u token newPassword) db = _ from
    Service.processCall_eq rfl now db]
  rcases s.run_resetPassword now db salt u token newPassword with
    ⟨hlive, htoken, hrun⟩ | ⟨hrefused, err, hrun⟩
  · rw [hrun, s.run_completeReset]
    cases hhash : hashPassword s.lib salt newPassword with
    | error err => exact .inr ⟨fun ⟨_, _, hash, hok⟩ => (nomatch hok), err, rfl⟩
    | ok hash => exact .inl ⟨hlive, htoken, hash, rfl, rfl⟩
  · rw [hrun]
    exact .inr ⟨fun ⟨hlive, htoken, _⟩ => hrefused ⟨hlive, htoken⟩, err, rfl⟩

/-- The effect of a call on the keys of password resets. -/
theorem encodes_processCall (hbcrypt : s.lib.IdealBcrypt) {entry : s.CallEntry}
    (hprocess : s.processCall entry.instant entry.request entry.before = (entry.reply, entry.after))
    (hencodes : s.EncodesReset entry.before machine) :
    s.EncodesReset entry.after (s.stepReset entry machine) := by
  obtain ⟨before, now, request, reply, after⟩ := entry
  have hother : ¬request.TouchesReset → s.EncodesReset after machine := by
    intro hrequest v
    apply encodesPending_of_keys _ (hencodes v)
    intro key hkey
    have hstate : (s.processCall now request before).2 = after := congrArg Prod.snd hprocess
    rw [← hstate]
    refine Service.processCall_meta ?_ (fun htouch => absurd htouch hrequest) now before
    intro _ hemail
    cases key with
    | resetTokenHash => exact hemail
    | resetExpiresAt => exact hemail
    | resetUsed => exact hemail
    | _ => exact hkey
  unfold Service.stepReset
  cases request with
  | forgotPassword draw email =>
      rw [Service.processCall, Service.call, Service.run_answering, s.run_forgotPassword] at hprocess
      dsimp only at hprocess ⊢
      cases huser : before.userWithEmail s.lib.lower email with
      | none =>
          rw [huser] at hprocess
          obtain rfl := (Prod.mk.inj hprocess).2
          exact hencodes
      | some user =>
          rw [huser] at hprocess
          -- A token is short enough to be hashed, so `ForgotPassword` cannot fail here.
          obtain ⟨hash, hhash⟩ := generate_resetToken hbcrypt draw
          rw [hhash] at hprocess
          obtain rfl := (Prod.mk.inj hprocess).2
          exact encodes_mint hencodes hhash
  | resetPassword salt userID token newPassword =>
      dsimp only at hprocess ⊢
      rcases processCall_resetPassword now salt before userID token newPassword with
        ⟨-, -, hash, -, hrun⟩ | ⟨-, err, hrun⟩
      · obtain ⟨rfl, rfl⟩ := Prod.mk.inj (hrun.symm.trans hprocess)
        exact encodes_use hencodes now hash
      · obtain ⟨rfl, rfl⟩ := Prod.mk.inj (hrun.symm.trans hprocess)
        exact hencodes
  | _ => exact hother id

/-! ## Runs -/

/-- In every run the keys of `users_meta` encode the machine. -/
theorem encodes_machineAfter (hbcrypt : s.lib.IdealBcrypt) {start last : Db}
    {history : List s.CallEntry} (hrun : s.CallRun start history last)
    (hstart : s.EncodesReset start machine) :
    s.EncodesReset last (s.machineAfter machine history) := by
  apply Serial.invariant (motive := fun history db =>
    s.EncodesReset db (s.machineAfter machine history)) hrun hstart
  intro history before now request _ hbefore _
  exact encodes_processCall hbcrypt rfl hbefore

/-- `ResetPassword` succeeds exactly where the machine accepts the token, for a live user
and a password that can be hashed. -/
theorem resetPassword_refines (hbcrypt : s.lib.IdealBcrypt) {start last : Db}
    {history later earlier : List s.CallEntry} {entry : s.CallEntry}
    (hrun : s.CallRun start history last) (hstart : s.EncodesReset start machine)
    (hsplit : history = later ++ entry :: earlier) {salt : Nat} {u : Uuid}
    {token newPassword : Bytes} (hrequest : entry.request = .resetPassword salt u token newPassword) :
    (entry.reply = .ok .done ↔ (entry.before.liveUser u).isSome = true ∧
      (s.machineAfter machine earlier).Accepts entry.instant u token ∧
      1 ≤ newPassword.length ∧ newPassword.length ≤ 72) ∧
    (entry.reply = .ok .done → ∃ hash, hashPassword s.lib salt newPassword = .ok hash ∧
      s.lib.bcryptGenerate salt newPassword = some hash ∧
      entry.after = { entry.before with
        users := entry.before.users.map fun user =>
          if user.id = u ∧ user.deletedAt = none then
            { user with passwordHash := hash, updatedAt := entry.instant }
          else user
        usersMeta := Function.update entry.before.usersMeta u
          (Function.update (entry.before.usersMeta u) .resetUsed (some textTrue)) }) ∧
    (entry.reply ≠ .ok .done → entry.after = entry.before) := by
  obtain ⟨hearlier, -, hprocess⟩ := Serial.entry hrun hsplit
  have hencodes := encodes_machineAfter hbcrypt hearlier hstart
  obtain ⟨before, now, request, reply, after⟩ := entry
  obtain rfl : request = .resetPassword salt u token newPassword := hrequest
  dsimp only at hencodes hprocess ⊢
  rw [← liveReset_iff_accepts hbcrypt hencodes now token]
  have hpassword : (∃ hash, hashPassword s.lib salt newPassword = .ok hash) ↔
      1 ≤ newPassword.length ∧ newPassword.length ≤ 72 :=
    hashPassword_isOk hbcrypt salt newPassword
  rw [← hpassword]
  rcases processCall_resetPassword now salt before u token newPassword with
    ⟨hlive, htoken, hash, hhash, hrun⟩ | ⟨hrefused, err, hrun⟩
  · obtain ⟨rfl, rfl⟩ := Prod.mk.inj (hrun.symm.trans hprocess)
    refine ⟨⟨fun _ => ⟨hlive, htoken, hash, hhash⟩, fun _ => rfl⟩, fun _ => ?_,
      fun hfailed => absurd rfl hfailed⟩
    exact ⟨hash, hhash, generate_of_hashPassword hhash, rfl⟩
  · obtain ⟨rfl, rfl⟩ := Prod.mk.inj (hrun.symm.trans hprocess)
    exact ⟨⟨nofun, fun haccepts => absurd haccepts hrefused⟩, nofun, fun _ => rfl⟩

end Refinement

namespace Sample

/-- Alice asks for a new password. -/
def forgotEntry : service.CallEntry :=
  service.entryAt (1000 * second) (.forgotPassword resetDraw alice.email) db

/-- She sets it with the token from the mail. -/
def resetEntry : service.CallEntry :=
  service.entryAt (1060 * second)
    (.resetPassword 1 alice.id (resetDraw.plain service.lib) newPassword) forgotEntry.after

theorem run_resetEntry : service.CallRun db [resetEntry, forgotEntry] resetEntry.after := by
  have hforgot : service.CallRun db [forgotEntry] forgotEntry.after :=
    Service.callRun_first db forgotEntry.instant forgotEntry.request
  exact Service.callRun_next hforgot resetEntry.instant resetEntry.request (by decide)

/-- Her token is accepted, and her new password written. -/
theorem resetEntry_succeeds :
    resetEntry.reply = .ok .done ∧ (resetEntry.before.liveUser alice.id).isSome = true ∧
      (service.machineAfter (fun _ => none) [forgotEntry]).Accepts resetEntry.instant alice.id
        (resetDraw.plain service.lib) ∧
      1 ≤ newPassword.length ∧ newPassword.length ≤ 72 := by
  have hbcrypt : service.lib.IdealBcrypt := Reference.external_idealBcrypt
  have hstart : service.EncodesReset db fun _ => none := encodesReset_of_no_keys fun _ _ _ => rfl
  have hdone : resetEntry.reply = .ok .done := by decide +kernel
  have haccepted :=
    (resetPassword_refines hbcrypt run_resetEntry hstart (List.nil_append _).symm rfl).1.mp hdone
  exact ⟨hdone, haccepted⟩

end Sample

end Skolva.Auth
