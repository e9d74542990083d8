import Skolva.Auth.FailingCalls
import Skolva.Auth.ResetTokens

/-! # Password resets while the store fails

`ResetPassword` writes the password and marks the token in two calls, and it drops the
error of the look-up that says whether the token has been used.
-/

namespace Skolva.Auth

open Effect

variable {s : Service}

/-! ## One `ResetPassword` -/

/-- What lets a `ResetPassword` through to its first write, and that write succeeds. -/
structure Service.ReplacesPassword (s : Service) (fails : Nat → Op → Option CallError) (now : Nat)
    (db : Db) (salt : Nat) (u : Uuid) (token newPassword : Bytes) (hash : Text) : Prop where
  userRead : fails 0 (.getUserByID u) = none
  user : (db.liveUser u).isSome = true
  unused : fails 1 (.metaGet u .resetUsed) = none → db.usersMeta u .resetUsed ≠ some textTrue
  expiryRead : fails 2 (.metaGet u .resetExpiresAt) = none
  expiry : ∃ instant ∈ (db.usersMeta u .resetExpiresAt).bind parseRFC3339, now ≤ instant
  tokenRead : fails 3 (.metaGet u .resetTokenHash) = none
  token : s.StoredFits (db.usersMeta u) token
  hashed : hashPassword s.lib salt newPassword = .ok hash
  written : fails 4 (.updatePassword u hash) = none

/-- The password of the user has been replaced. -/
def Db.withPassword (db : Db) (now : Nat) (u : Uuid) (hash : Text) : Db :=
  db.updateLiveUser now u fun user => { user with passwordHash := hash }

section Run

variable (s) (fails : Nat → Op → Option CallError) (now : Nat) (db : Db)

theorem run_completeReset_failing (salt : Nat) (u : Uuid) (newPassword : Bytes) :
    (∃ hash, hashPassword s.lib salt newPassword = .ok hash ∧
      fails 4 (.updatePassword u hash) = none ∧
      (s.completeReset salt u newPassword).run (serveFailing s.lib fails) now (4, db) =
        match fails 5 (.metaSet u .resetUsed textTrue) with
        | some cause => (.error (.call cause), 6, db.withPassword now u hash)
        | none => (.ok (), 6, Service.useReset db now u hash)) ∨
    ((∀ hash, hashPassword s.lib salt newPassword = .ok hash →
        fails 4 (.updatePassword u hash) ≠ none) ∧
      ∃ err count, (s.completeReset salt u newPassword).run (serveFailing s.lib fails) now (4, db) =
        (.error err, count, db)) := by
  unfold Service.completeReset
  cases hhash : hashPassword s.lib salt newPassword with
  | error err => exact .inr ⟨by simp, _, _, rfl⟩
  | ok hash =>
      dsimp only
      cases hwrite : fails 4 (.updatePassword u hash) with
      | some cause =>
          rw [run_failed s.lib now 4 db hwrite]
          exact .inr ⟨by simp [hwrite], _, _, rfl⟩
      | none =>
          rw [run_served s.lib now 4 db hwrite]
          dsimp only [serve]
          refine .inl ⟨hash, rfl, hwrite, ?_⟩
          cases hmark : fails 5 (.metaSet u .resetUsed textTrue) with
          | some cause => rw [run_failed s.lib now _ _ hmark]; rfl
          | none => rw [run_served s.lib now _ _ hmark]; rfl

/-- `ResetPassword` replaces the password, or it reports an error and changes nothing. -/
theorem run_resetPassword_failing (salt : Nat) (u : Uuid) (token newPassword : Bytes) :
    (∃ hash, s.ReplacesPassword fails now db salt u token newPassword hash ∧
      (s.resetPassword salt u token newPassword).run (serveFailing s.lib fails) now (0, db) =
        match fails 5 (.metaSet u .resetUsed textTrue) with
        | some cause => (.error (.call cause), 6, db.withPassword now u hash)
        | none => (.ok (), 6, Service.useReset db now u hash)) ∨
    ∃ err count,
      (s.resetPassword salt u token newPassword).run (serveFailing s.lib fails) now (0, db) =
        (.error err, count, db) := by
  unfold Service.resetPassword
  cases huserRead : fails 0 (.getUserByID u) with
  | some cause =>
      rw [run_failed s.lib now 0 db huserRead]
      exact .inr ⟨_, _, rfl⟩
  | none =>
  rw [run_served s.lib now 0 db huserRead]
  cases huser : db.liveUser u with
  | none =>
      simp only [serve, huser, Option.map_none, one]
      exact .inr ⟨_, _, rfl⟩
  | some user =>
  simp only [serve, huser, Option.map_some, one]
  unfold Service.resetPasswordAfter
  rw [Program.run_bind, run_metaGet_failing]
  dsimp only
  by_cases hused : valueOr none (readMeta fails 1 db u .resetUsed) = some textTrue
  · rw [if_pos hused]
    exact .inr ⟨_, _, rfl⟩
  rw [if_neg hused]
  cases hexpiryRead : fails 2 (.metaGet u .resetExpiresAt) with
  | some cause =>
      rw [run_failed s.lib now _ db hexpiryRead]
      exact .inr ⟨_, _, rfl⟩
  | none =>
  rw [run_served s.lib now _ db hexpiryRead]
  dsimp only [serve, valueOr_ok]
  cases hexpiry : db.usersMeta u .resetExpiresAt with
  | none => exact .inr ⟨_, _, rfl⟩
  | some expiresStr =>
  obtain ⟨expired, hrunExpired, hexpired⟩ := Service.run_hasExpired now
    (serveFailing s.lib fails) (0 + 1 + 1 + 1, db) expiresStr
  dsimp only
  rw [Program.run_bind, hrunExpired]
  cases expired with
  | true => exact .inr ⟨_, _, rfl⟩
  | false =>
  simp only [Bool.false_eq_true, if_false]
  cases htokenRead : fails 3 (.metaGet u .resetTokenHash) with
  | some cause =>
      rw [run_failed s.lib now _ db htokenRead]
      exact .inr ⟨_, _, rfl⟩
  | none =>
  rw [run_served s.lib now _ db htokenRead]
  dsimp only [serve, valueOr_ok]
  cases htoken : db.usersMeta u .resetTokenHash with
  | none => exact .inr ⟨_, _, rfl⟩
  | some tokenHash =>
  dsimp only
  by_cases hcompare : s.lib.bcryptCompare tokenHash token = true
  · rw [if_pos hcompare]
    rcases run_completeReset_failing s fails now db salt u newPassword with
      ⟨hash, hhash, hwrite, hrun⟩ | ⟨-, err, count, hrun⟩
    · refine .inl ⟨hash, ⟨huserRead, by simp [huser], ?_, hexpiryRead, ?_, htokenRead,
        ⟨tokenHash, htoken, hcompare⟩, hhash, hwrite⟩, hrun⟩
      · intro hread
        simpa [readMeta, hread] using hused
      · simpa [hexpiry] using hexpired.mp rfl
    · exact .inr ⟨err, count, hrun⟩
  · rw [if_neg hcompare]
    exact .inr ⟨_, _, rfl⟩

end Run

/-! ## What a request does to the token -/

/-- The token is dead for good: it has been used, or another one is stored. -/
def Service.Spent (s : Service) (keys : MetaKey → Option Text) (token : Bytes) : Prop :=
  keys .resetUsed = some textTrue ∨ ¬s.StoredFits keys token

/-- The token of the user is as it was, or a new one has been stored. -/
def Service.KeepsOrMints (s : Service) (draw : ResetDraw) (u : Uuid) (before after : Db) : Prop :=
  (after.usersMeta u .resetTokenHash = before.usersMeta u .resetTokenHash ∧
    after.usersMeta u .resetUsed = before.usersMeta u .resetUsed) ∨
  ∃ hash, s.lib.bcryptGenerate draw.salt (draw.plain s.lib) = some hash ∧
    after.usersMeta u .resetTokenHash = some hash

theorem keepsOrMints_forgotPasswordAfter (fails : Nat → Op → Option CallError) (now : Nat) (db : Db)
    (draw : ResetDraw) (account : UserByEmailRow) (u : Uuid) :
    s.KeepsOrMints draw u db ((s.forgotPasswordAfter draw account).run
      (serveFailing s.lib fails) now (1, db)).2.2 := by
  cases hhash : s.lib.bcryptGenerate draw.salt (draw.plain s.lib) with
  | none =>
      unfold Service.forgotPasswordAfter
      rw [hhash]
      exact .inl ⟨rfl, rfl⟩
  | some hash =>
      rw [s.run_forgotPasswordAfter_failing fails now db hhash]
      by_cases howner : u = account.id
      · subst howner
        cases fails 1 (.metaSet account.id .resetTokenHash hash) with
        | some cause => exact .inl ⟨rfl, rfl⟩
        | none =>
            refine .inr ⟨hash, hhash, ?_⟩
            cases fails 2 (.metaSet account.id .resetExpiresAt
                (formatRFC3339 (now + resetTokenExpiry))) with
            | some cause => simp
            | none =>
                dsimp only
                rw [attempted_meta, attempted_meta]
                · simp [Service.storedReset, Db.setMeta_apply]
                · simp [Op.LeavesMeta]
                · trivial
      · -- Another user's keys are written.
        left
        cases fails 1 (.metaSet account.id .resetTokenHash hash) with
        | some cause => exact ⟨rfl, rfl⟩
        | none =>
            cases fails 2 (.metaSet account.id .resetExpiresAt
                (formatRFC3339 (now + resetTokenExpiry))) with
            | some cause => simp [Db.setMeta_apply, howner]
            | none =>
                dsimp only
                constructor <;>
                  rw [attempted_meta, attempted_meta] <;>
                  simp [Service.storedReset, Db.setMeta_apply, Op.LeavesMeta, howner]

theorem keepsOrMints_forgotPassword (fails : Nat → Op → Option CallError) (now : Nat) (db : Db)
    (draw : ResetDraw) (email : String) (u : Uuid) :
    s.KeepsOrMints draw u db
      ((s.forgotPassword draw email).run (serveFailing s.lib fails) now (0, db)).2.2 := by
  unfold Service.forgotPassword
  cases hfind : fails 0 (.getUserByEmail email) with
  | some cause =>
      rw [run_failed s.lib now 0 db hfind]
      cases cause <;> exact .inl ⟨rfl, rfl⟩
  | none =>
      rw [run_served s.lib now 0 db hfind]
      cases huser : db.userWithEmail s.lib.lower email with
      | none =>
          simp only [serve, huser, Option.map_none, one]
          exact .inl ⟨rfl, rfl⟩
      | some user =>
          simp only [serve, huser, Option.map_some, one]
          exact keepsOrMints_forgotPasswordAfter fails now db draw user.byEmailRow u

/-! ## One request of a run -/

/-- A reset is all or nothing: after a success the password is replaced and no later
request gets through with the token, and an error leaves passwords and tokens alone. -/
structure Service.AllOrNothing (u : Uuid) (later : List s.FailingEntry) (entry : s.FailingEntry)
    (salt : Nat) (token newPassword : Bytes) : Prop where
  replaced : entry.reply.isOk = true → ∃ hash user,
    hashPassword s.lib salt newPassword = .ok hash ∧
      entry.after.liveUser u = some user ∧ user.passwordHash = hash
  spent : entry.reply.isOk = true → ∀ other ∈ later,
    (∃ salt newPassword, other.request.call = .resetPassword salt u token newPassword) →
    other.reply.isOk = false
  unchanged : entry.reply.isOk = false → entry.after.users = entry.before.users ∧
    ∀ instant other, s.LiveReset entry.after instant u other ↔
      s.LiveReset entry.before instant u other

/-- Where the request replaces the password, the flag of the token was not set and is
stored. -/
def Service.KeepsFlag (u : Uuid) (entry : s.FailingEntry) : Prop :=
  ∀ salt token newPassword hash, entry.request.call = .resetPassword salt u token newPassword →
    s.ReplacesPassword entry.request.fails entry.instant entry.before salt u token newPassword hash →
    entry.before.usersMeta u .resetUsed ≠ some textTrue ∧
      entry.request.fails 5 (.metaSet u .resetUsed textTrue) = none

/-- `ResetPassword` as an entry of a run, where the flag is kept. -/
theorem resetPassword_entry {entry : s.FailingEntry} {u : Uuid} {salt : Nat}
    {token newPassword : Bytes}
    (hprocess : s.processFailing entry.instant entry.request entry.before =
      (entry.reply, entry.after))
    (hrequest : entry.request.call = .resetPassword salt u token newPassword)
    (hkept : Service.KeepsFlag u entry) :
    (∃ hash, s.ReplacesPassword entry.request.fails entry.instant entry.before salt u token
        newPassword hash ∧ entry.before.usersMeta u .resetUsed ≠ some textTrue ∧
      entry.reply = .ok .done ∧ entry.after = Service.useReset entry.before entry.instant u hash) ∨
    ∃ err, entry.reply = .error err ∧ entry.after = entry.before := by
  have hcall : s.call entry.request.call =
      s.answering (fun _ => .done) (s.resetPassword salt u token newPassword) := by
    rw [hrequest]
    rfl
  rcases run_resetPassword_failing s entry.request.fails entry.instant entry.before salt u token
    newPassword with ⟨hash, hreplaces, hrun⟩ | ⟨err, count, hrun⟩
  · obtain ⟨hunused, hmarked⟩ := hkept salt token newPassword hash hrequest hreplaces
    rw [hmarked] at hrun
    rw [Service.processFailing_eq hcall hrun] at hprocess
    obtain ⟨hreply, hafter⟩ := Prod.mk.inj hprocess
    exact .inl ⟨hash, hreplaces, hunused, hreply.symm, hafter.symm⟩
  · rw [Service.processFailing_eq hcall hrun] at hprocess
    obtain ⟨hreply, hafter⟩ := Prod.mk.inj hprocess
    exact .inr ⟨err, hreply.symm, hafter.symm⟩

theorem forgotPassword_entry {entry : s.FailingEntry} {draw : ResetDraw} {email : String}
    (hprocess : s.processFailing entry.instant entry.request entry.before =
      (entry.reply, entry.after))
    (hrequest : entry.request.call = .forgotPassword draw email) (u : Uuid) :
    s.KeepsOrMints draw u entry.before entry.after := by
  have hkept := keepsOrMints_forgotPassword (s := s) entry.request.fails entry.instant entry.before
    draw email u
  have hafter : (s.processFailing entry.instant entry.request entry.before).2 = entry.after :=
    congrArg Prod.snd hprocess
  rw [← hafter, Service.processFailing, hrequest, Service.call, Service.answering,
    Program.run_map]
  exact hkept

section Keys

variable (now : Nat) (db : Db) (u : Uuid) (hash : Text)

theorem useReset_used :
    (Service.useReset db now u hash).usersMeta u .resetUsed = some textTrue :=
  Db.setMeta_self ..

theorem useReset_tokenHash :
    (Service.useReset db now u hash).usersMeta u .resetTokenHash =
      db.usersMeta u .resetTokenHash := by
  simp [Service.useReset, Db.setMeta_apply, Db.updateLiveUser]

theorem liveUser_useReset :
    (Service.useReset db now u hash).liveUser u =
      (db.liveUser u).map fun user => User.touch { user with passwordHash := hash } now :=
  Db.liveUser_updateLiveUser db now u _ (fun _ => rfl) fun _ => rfl

end Keys

/-- A spent token stays spent, unless the same token is drawn again. -/
theorem spent_entry (hbcrypt : s.lib.IdealBcrypt) {entry : s.FailingEntry} {u : Uuid} {token : Bytes}
    (hprocess : s.processFailing entry.instant entry.request entry.before =
      (entry.reply, entry.after))
    (hreset : entry.request.call.IsReset u) (hkept : Service.KeepsFlag u entry)
    (hfresh : entry.request.call.drawnToken s.lib ≠ some token)
    (hspent : s.Spent (entry.before.usersMeta u) token) :
    s.Spent (entry.after.usersMeta u) token := by
  cases hrequest : entry.request.call with
  | forgotPassword draw email =>
      rw [hrequest] at hfresh
      rcases forgotPassword_entry hprocess hrequest u with ⟨htoken, hused⟩ | ⟨hash, hhash, htoken⟩
      · unfold Service.Spent Service.StoredFits at hspent ⊢
        rwa [htoken, hused]
      · right
        rintro ⟨stored, hstored, hcompare⟩
        rw [htoken] at hstored
        obtain rfl := Option.some.inj hstored
        have hsame := (hbcrypt.compare_iff _ _ _ hhash token).mp hcompare
        exact hfresh (congrArg some hsame.symm)
  | resetPassword salt userID presented newPassword =>
      rw [hrequest] at hreset
      obtain rfl : userID = u := hreset
      rcases resetPassword_entry hprocess hrequest hkept with
        ⟨hash, -, -, -, hafter⟩ | ⟨err, -, hafter⟩
      · rw [hafter]
        exact .inl (useReset_used ..)
      · rwa [hafter]
  | _ =>
      rw [hrequest] at hreset
      exact hreset.elim

/-- A stored hash was there before, or belongs to the token the request has drawn. -/
theorem tokenHash_entry (entry : s.FailingEntry) {u : Uuid}
    (hprocess : s.processFailing entry.instant entry.request entry.before =
      (entry.reply, entry.after))
    (hreset : entry.request.call.IsReset u) (hkept : Service.KeepsFlag u entry) {hash : Text}
    (hhash : hash ∈ entry.after.usersMeta u .resetTokenHash) :
    hash ∈ entry.before.usersMeta u .resetTokenHash ∨
      ∃ token salt, entry.request.call.drawnToken s.lib = some token ∧
        s.lib.bcryptGenerate salt token = some hash := by
  cases hrequest : entry.request.call with
  | forgotPassword draw email =>
      rcases forgotPassword_entry hprocess hrequest u with ⟨htoken, -⟩ | ⟨minted, hminted, htoken⟩
      · rw [htoken] at hhash
        exact .inl hhash
      · rw [htoken] at hhash
        obtain rfl := Option.some.inj hhash
        exact .inr ⟨draw.plain s.lib, draw.salt, rfl, hminted⟩
  | resetPassword salt userID presented newPassword =>
      rw [hrequest] at hreset
      obtain rfl : userID = u := hreset
      left
      rcases resetPassword_entry hprocess hrequest hkept with
        ⟨replaced, -, -, -, hafter⟩ | ⟨err, -, hafter⟩
      · rwa [hafter, useReset_tokenHash] at hhash
      · rwa [hafter] at hhash
  | _ =>
      rw [hrequest] at hreset
      exact hreset.elim

/-- No request gets through with a spent token. -/
theorem refused_of_spent {entry : s.FailingEntry} {u : Uuid} {salt : Nat} {token newPassword : Bytes}
    (hprocess : s.processFailing entry.instant entry.request entry.before =
      (entry.reply, entry.after))
    (hrequest : entry.request.call = .resetPassword salt u token newPassword)
    (hkept : Service.KeepsFlag u entry) (hspent : s.Spent (entry.before.usersMeta u) token) :
    entry.reply.isOk = false := by
  rcases resetPassword_entry hprocess hrequest hkept with
    ⟨hash, hreplaces, hunused, -⟩ | ⟨err, hreply, -⟩
  · rcases hspent with hused | hother
    · exact absurd hused hunused
    · exact absurd hreplaces.token hother
  · rw [hreply]
    rfl

/-! ## Runs -/

/-- No token is drawn twice, or already stored. -/
structure Service.FreshDraws (s : Service) (start : Db) (u : Uuid) (history : List s.FailingEntry) :
    Prop where
  distinct : (history.filterMap fun entry => entry.request.call.drawnToken s.lib).Nodup
  unknown : ∀ entry ∈ history, ∀ token, entry.request.call.drawnToken s.lib = some token →
    ¬s.StoredFits (start.usersMeta u) token

section Run

variable {start last : Db} {history : List s.FailingEntry} {u : Uuid}

/-- The stored hash is that of the start, or of a token drawn since. -/
def Service.HashOrigin (start : Db) (u : Uuid) (history : List s.FailingEntry) (hash : Text) : Prop :=
  hash ∈ start.usersMeta u .resetTokenHash ∨
    ∃ entry ∈ history, ∃ token salt, entry.request.call.drawnToken s.lib = some token ∧
      s.lib.bcryptGenerate salt token = some hash

theorem hashOrigin_of_run (hrun : s.FailingRun start history last)
    (hresets : ∀ entry ∈ history, entry.request.call.IsReset u)
    (hkept : ∀ entry ∈ history, Service.KeepsFlag u entry) :
    ∀ hash ∈ last.usersMeta u .resetTokenHash, Service.HashOrigin start u history hash := by
  unfold Service.FailingRun at hrun
  induction hrun with
  | nil => exact fun hash hhash => .inl hhash
  | @cons history before now request hhistory hadmissible ih =>
      have hearlier := ih (fun entry hentry => hresets entry (List.mem_cons_of_mem _ hentry))
        fun entry hentry => hkept entry (List.mem_cons_of_mem _ hentry)
      intro hash hhash
      rcases tokenHash_entry (s.failingEntryAt now request before) rfl
        (hresets _ List.mem_cons_self) (hkept _ List.mem_cons_self) hhash with hold | ⟨hdrawn⟩
      · rcases hearlier hash hold with hstart | ⟨entry, hentry, hdrawn⟩
        · exact .inl hstart
        · exact .inr ⟨entry, List.mem_cons_of_mem _ hentry, hdrawn⟩
      · exact .inr ⟨_, List.mem_cons_self, hdrawn⟩

/-- A token that fits the stored hash is not drawn again. -/
theorem not_drawn_again (hbcrypt : s.lib.IdealBcrypt) {later earlier : List s.FailingEntry}
    {entry : s.FailingEntry} (hfresh : s.FreshDraws start u history)
    (hsplit : history = later ++ entry :: earlier) {token : Bytes} {hash : Text}
    (horigin : Service.HashOrigin start u earlier hash)
    (hcompare : s.lib.bcryptCompare hash token = true) :
    ∀ other ∈ later, other.request.call.drawnToken s.lib ≠ some token := by
  intro other hother hdrawn
  rcases horigin with hstart | ⟨mint, hmint, minted, salt, hminted, hhash⟩
  · exact hfresh.unknown other (by simp [hsplit, hother]) token hdrawn ⟨hash, hstart, hcompare⟩
  · obtain rfl := (hbcrypt.compare_iff _ _ _ hhash token).mp hcompare
    have hdistinct := hfresh.distinct
    rw [hsplit, List.filterMap_append, List.nodup_append] at hdistinct
    have hlater : token ∈ later.filterMap fun old => old.request.call.drawnToken s.lib :=
      List.mem_filterMap.mpr ⟨other, hother, hdrawn⟩
    have hearlier : token ∈ (entry :: earlier).filterMap fun old =>
        old.request.call.drawnToken s.lib :=
      List.mem_filterMap.mpr ⟨mint, List.mem_cons_of_mem entry hmint, hminted⟩
    exact hdistinct.2.2 token hlater token hearlier rfl

/-- In a run where the flag is kept, every password reset is all or nothing. -/
theorem resets_allOrNothing (hbcrypt : s.lib.IdealBcrypt) (hrun : s.FailingRun start history last)
    (hresets : ∀ entry ∈ history, entry.request.call.IsReset u)
    (hfresh : s.FreshDraws start u history)
    (hkept : ∀ entry ∈ history, Service.KeepsFlag u entry)
    {later earlier : List s.FailingEntry} {entry : s.FailingEntry}
    (hsplit : history = later ++ entry :: earlier) {salt : Nat} {token newPassword : Bytes}
    (hrequest : entry.request.call = .resetPassword salt u token newPassword) :
    Service.AllOrNothing u later entry salt token newPassword := by
  have hmem : entry ∈ history := by simp [hsplit]
  obtain ⟨hearlier, -, hprocess⟩ := hrun.entry hsplit
  rcases resetPassword_entry hprocess hrequest (hkept entry hmem) with
    ⟨hash, hreplaces, -, hreply, hafter⟩ | ⟨err, hreply, hafter⟩
  · obtain ⟨stored, hstored, hcompare⟩ := hreplaces.token
    have horigin := hashOrigin_of_run hearlier
      (fun old hold => hresets old (by simp [hsplit, hold]))
      (fun old hold => hkept old (by simp [hsplit, hold])) stored hstored
    have hdrawn := not_drawn_again hbcrypt hfresh hsplit horigin hcompare
    have hspent : s.Spent (last.usersMeta u) token ∧ ∀ other ∈ later,
        (∃ salt newPassword, other.request.call = .resetPassword salt u token newPassword) →
        other.reply.isOk = false := by
      refine hrun.along (motive := fun segment state => s.Spent (state.usersMeta u) token ∧
        ∀ other ∈ segment, (∃ salt newPassword,
          other.request.call = .resetPassword salt u token newPassword) →
          other.reply.isOk = false) hsplit ?_ ?_
      · intro state hstate
        refine ⟨.inl ?_, by simp⟩
        obtain rfl : state = entry.after := by
          cases hstate
          rfl
        rw [hafter]
        exact useReset_used ..
      · intro segment other hother hstep ⟨hspent, hrefused⟩
        have hin : other ∈ history := by simp [hsplit, hother]
        refine ⟨spent_entry hbcrypt hstep (hresets other hin) (hkept other hin)
          (hdrawn other hother) hspent, ?_⟩
        intro latest hlatest
        rcases List.mem_cons.mp hlatest with rfl | hlatest
        · rintro ⟨again, chosen, hagain⟩
          exact refused_of_spent hstep hagain (hkept latest hin) hspent
        · exact hrefused latest hlatest
    constructor
    · intro _
      obtain ⟨user, huser⟩ := Option.isSome_iff_exists.mp hreplaces.user
      refine ⟨hash, User.touch { user with passwordHash := hash } entry.instant,
        hreplaces.hashed, ?_, rfl⟩
      rw [hafter, liveUser_useReset, huser]
      rfl
    · exact fun _ => hspent.2
    · intro herror
      rw [hreply] at herror
      cases herror
  · constructor
    · intro hok
      rw [hreply] at hok
      cases hok
    · intro hok
      rw [hreply] at hok
      cases hok
    · intro _
      rw [hafter]
      exact ⟨rfl, fun _ _ => Iff.rfl⟩

end Run

namespace Sample

open Time

/-- Alice asks for a new password. -/
def askedFor : service.FailingEntry :=
  service.failingEntryAt (1000 * second) ⟨.forgotPassword resetDraw alice.email, fun _ _ => none⟩ db

/-- She sets it with the token from the mail, while these calls fail. -/
def setWhile (fails : Nat → Op → Option CallError) : service.FailingEntry :=
  service.failingEntryAt (1060 * second)
    ⟨.resetPassword 1 alice.id (resetDraw.plain service.lib) newPassword, fails⟩ askedFor.after

theorem run_setWhile (fails : Nat → Op → Option CallError) :
    service.FailingRun db [setWhile fails, askedFor] (setWhile fails).after := by
  have hasked : service.FailingRun db [askedFor] askedFor.after :=
    Service.failingRun_first db askedFor.instant askedFor.request
  exact Service.failingRun_next hasked (1060 * second) _ (by decide)

theorem isReset_setWhile (fails : Nat → Op → Option CallError) :
    ∀ entry ∈ [setWhile fails, askedFor], entry.request.call.IsReset alice.id := by
  simp [setWhile, askedFor, Service.failingEntryAt, ServiceCall.IsReset]

theorem freshDraws_setWhile (fails : Nat → Op → Option CallError) :
    service.FreshDraws db alice.id [setWhile fails, askedFor] where
  distinct := List.nodup_singleton _
  unknown _ _ _ _ := by
    rintro ⟨hash, hhash, -⟩
    cases hhash

theorem setWhile_allOrNothing :
    Service.AllOrNothing alice.id [] (setWhile fun _ _ => none) 1 (resetDraw.plain service.lib)
      newPassword := by
  have hbcrypt : service.lib.IdealBcrypt := Reference.external_idealBcrypt
  refine resets_allOrNothing hbcrypt (run_setWhile _) (isReset_setWhile _) (freshDraws_setWhile _)
    ?_ (List.nil_append _).symm rfl
  intro entry hentry salt token newPassword hash hrequest _
  rcases List.mem_cons.mp hentry with rfl | hentry
  · exact ⟨by decide, rfl⟩
  · rw [List.mem_singleton.mp hentry] at hrequest
    cases hrequest

end Sample

/-- The mark of the token cannot be stored: an error is reported, and the password is
replaced. -/
theorem not_forall_allOrNothing :
    ¬∀ (s : Service) (start last : Db) (u : Uuid) (history later earlier : List s.FailingEntry)
      (entry : s.FailingEntry) (salt : Nat) (token newPassword : Bytes), s.lib.IdealBcrypt →
      s.FailingRun start history last →
      (∀ entry ∈ history, entry.request.call.IsReset u) → s.FreshDraws start u history →
      history = later ++ entry :: earlier →
      entry.request.call = .resetPassword salt u token newPassword →
      Service.AllOrNothing u later entry salt token newPassword := by
  intro hall
  let fails : Nat → Op → Option CallError :=
    fun index _ => if index = 5 then some .unavailable else none
  have hreset := hall Sample.service Sample.db _ Sample.alice.id _ [] [Sample.askedFor]
    (Sample.setWhile fails) 1 (Sample.resetDraw.plain Sample.service.lib) Sample.newPassword
    Reference.external_idealBcrypt (Sample.run_setWhile fails) (Sample.isReset_setWhile fails)
    (Sample.freshDraws_setWhile fails) rfl rfl
  exact absurd (hreset.unchanged rfl).1 (by decide)

end Skolva.Auth
