import Skolva.Auth.Handler
import Skolva.Effect.History

/-! # Login in two steps

Requests to the endpoints come one after the other. Signatures cannot be forged:
a token that carries the signature of the service has the claims of a token the
service has handed out.
-/

namespace Skolva.Auth

open Effect

variable (s : Service)

/-- Every signed token the request presents was handed out before. -/
def Service.HandedOut (history : List (Entry (Request s.lib.Token) (Reply s.lib.Token) Db))
    (request : Request s.lib.Token) : Prop :=
  ∀ token ∈ request.presented, ∀ claims, s.lib.jwtParse s.tm.secret token = some claims →
    ∃ entry ∈ history, ∃ issued ∈ entry.reply.tokens,
      s.lib.jwtParse s.tm.secret issued = some claims

/-- Runs under a non-decreasing clock, against clients that cannot forge signatures. -/
def Service.Run (start : Db) :
    List (Entry (Request s.lib.Token) (Reply s.lib.Token) Db) → Db → Prop :=
  Serial (Handler.process s)
    (fun history now request => ClockForward history now ∧ s.HandedOut history request) start

/-- The entry is a login that has checked the password of the user, and whose answer
carries a token with the same claims as this one. -/
def Service.MintsPending (u : Uuid) (presented : s.lib.Token)
    (entry : Entry (Request s.lib.Token) (Reply s.lib.Token) Db) : Prop :=
  ∃ draw req, entry.request = .login draw (some req) ∧
    s.PasswordChecked entry.before req.email req.password u ∧
    ∃ minted ∈ entry.reply.tokens,
      s.lib.jwtParse s.tm.secret minted = s.lib.jwtParse s.tm.secret presented

variable {s}

theorem no_factor_of_passwordSuffices {db : Db} {u : Uuid} {request : Request s.lib.Token}
    (hpassword : s.PasswordSuffices db u request) : ¬(db.TotpEnabled u ∨ db.EmailEnabled u) := by
  cases request with
  | login draw body =>
      cases body with
      | none => exact hpassword.elim
      | some req => exact hpassword.2
  | _ => exact hpassword.elim

theorem presented_of_secondFactorPassed {db : Db} {now : Nat} {u : Uuid}
    {request : Request s.lib.Token} (hpassed : s.SecondFactorPassed now db u request) :
    ∃ token ∈ request.presented, s.PendingTokenFor now u token := by
  cases request with
  | verify2FA jti body | recover2FA jti body | verifyEmail2FA jti body =>
      cases body with
      | none => exact hpassed.elim
      | some req => exact ⟨req.tempToken, List.mem_singleton_self _, hpassed.1⟩
  | _ => exact hpassed.elim

/-- A pending token that is valid has been minted for its user by an earlier login,
less than five minutes ago. -/
theorem pendingToken_minted {start last : Db}
    {history : List (Entry (Request s.lib.Token) (Reply s.lib.Token) Db)}
    (hrun : s.Run start history last) {now : Nat} {request : Request s.lib.Token}
    (hhandedOut : s.HandedOut history request) {u : Uuid} {token : s.lib.Token}
    (htoken : token ∈ request.presented) (hpending : s.PendingTokenFor now u token) :
    ∃ mint ∈ history, s.MintsPending u token mint ∧ now < mint.instant + 5 * Time.minute := by
  obtain ⟨claims, hclaims, hvalid, hkind, hsubject⟩ := hpending
  obtain ⟨mint, hmint, issued, hissued, hsame⟩ := hhandedOut token htoken claims hclaims
  obtain ⟨later, earlier, hsplit⟩ := List.append_of_mem hmint
  obtain ⟨-, -, hprocess⟩ := Serial.entry hrun hsplit
  have hreply : mint.reply = (Handler.process s mint.instant mint.request mint.before).1 := by
    rw [hprocess]
  obtain ⟨draw, req, owner, hrequest, hchecked, hminted⟩ :=
    Handler.pending_minted s mint.instant mint.before (hreply ▸ hissued) hsame hkind
  have howner : owner = u := by
    rw [hminted, TokenManager.claimsAt, TokenManager.claimsBy, s.lib.uuidParse_uuidString] at hsubject
    exact Option.some.inj hsubject
  refine ⟨mint, hmint, ⟨draw, req, hrequest, howner ▸ hchecked, issued, hissued,
    hsame.trans hclaims.symm⟩, ?_⟩
  -- The expiry is rounded down to whole seconds.
  obtain ⟨expiresAt, hexpires, hbefore⟩ := hvalid.1
  rw [hminted, TokenManager.claimsAt, TokenManager.claimsBy, Option.mem_some_iff] at hexpires
  have hround : expiresAt * Time.second ≤ mint.instant + 5 * Time.minute :=
    hexpires ▸ Int.ediv_mul_le _ (by decide)
  exact_mod_cast Int.lt_of_lt_of_le hbefore hround

/-- Whoever has a second factor gets an access token only in the second step: with a
pending token that a login has minted for the same user less than five minutes before,
and a code that a factor of the user accepts at that moment. -/
theorem access_needs_both_steps {start last : Db}
    {history later earlier : List (Entry (Request s.lib.Token) (Reply s.lib.Token) Db)}
    (hrun : s.Run start history last)
    {entry : Entry (Request s.lib.Token) (Reply s.lib.Token) Db}
    (hsplit : history = later ++ entry :: earlier) {u : Uuid}
    (haccess : s.GrantsAccess entry.reply u)
    (hfactor : entry.before.TotpEnabled u ∨ entry.before.EmailEnabled u) :
    s.SecondFactorPassed entry.instant entry.before u entry.request ∧
      ∃ presented ∈ entry.request.presented,
        s.PendingTokenFor entry.instant u presented ∧
        ∃ mint ∈ earlier, s.MintsPending u presented mint ∧ mint.instant ≤ entry.instant ∧
          entry.instant < mint.instant + 5 * Time.minute := by
  obtain ⟨hearlier, ⟨-, hhandedOut⟩, hprocess⟩ := Serial.entry hrun hsplit
  have hreply : entry.reply = (Handler.process s entry.instant entry.request entry.before).1 := by
    rw [hprocess]
  rw [hreply, Handler.grantsAccess_process] at haccess
  rcases haccess with hpassword | ⟨hpassed, -⟩
  · exact absurd hfactor (no_factor_of_passwordSuffices hpassword)
  · obtain ⟨presented, hpresented, hpending⟩ := presented_of_secondFactorPassed hpassed
    obtain ⟨mint, hmint, hminted, hinTime⟩ :=
      pendingToken_minted hearlier hhandedOut hpresented hpending
    have horder : mint.instant ≤ entry.instant :=
      Serial.instant_le hrun (fun _ _ _ hadmissible => hadmissible.1) hsplit mint hmint
    exact ⟨hpassed, presented, hpresented, hpending, mint, hmint, hminted, horder, hinTime⟩

/-! ## A run -/

namespace Sample

def loginAt : Nat := 1000 * Time.second

def verifyAt : Nat := 1060 * Time.second

/-- Alice logs in with her password. -/
def loginEntry : Entry (Request service.lib.Token) (Reply service.lib.Token) Db :=
  let request := Request.login ⟨7, ⟨123456, 1⟩⟩ (some ⟨alice.email, password⟩)
  ⟨dbWithTotp, loginAt, request, (Handler.process service loginAt request dbWithTotp).1,
    (Handler.process service loginAt request dbWithTotp).2⟩

def pendingToken : service.lib.Token :=
  service.tm.signed service.lib loginAt 7 (service.lib.uuidString alice.id) "" [] []
    tokenKindPending2FA (5 * Time.minute)

theorem tokens_loginEntry : loginEntry.reply.tokens = [pendingToken] := rfl

/-- A minute later she enters the code of her device. -/
def verifyEntry : Entry (Request service.lib.Token) (Reply service.lib.Token) Db :=
  let code := Reference.totpCode totpSecret (verifyAt / (30 * Time.second))
  let request := Request.verify2FA 8 (some ⟨pendingToken, code⟩)
  ⟨loginEntry.after, verifyAt, request,
    (Handler.process service verifyAt request loginEntry.after).1,
    (Handler.process service verifyAt request loginEntry.after).2⟩

theorem run_verifyEntry :
    service.Run dbWithTotp [verifyEntry, loginEntry] verifyEntry.after := by
  have hlogin : service.Run dbWithTotp [loginEntry] loginEntry.after :=
    Serial.cons loginAt loginEntry.request Serial.nil
      ⟨fun _ hentry => absurd hentry (Option.not_mem_none _),
        fun _ htoken => absurd htoken List.not_mem_nil⟩
  refine Serial.cons verifyAt verifyEntry.request hlogin ⟨?_, ?_⟩
  · intro entry hentry
    obtain rfl := Option.some.inj hentry
    decide
  · intro token htoken claims hclaims
    obtain rfl : token = pendingToken := List.mem_singleton.mp htoken
    refine ⟨loginEntry, List.mem_singleton_self _, pendingToken, ?_, hclaims⟩
    rw [tokens_loginEntry]
    exact List.mem_singleton_self _

theorem grantsAccess_verifyEntry : service.GrantsAccess verifyEntry.reply alice.id := by
  refine (Handler.grantsAccess_process ..).mpr (.inr ⟨⟨?_, ?_⟩, by decide⟩)
  · exact ⟨_, rfl, by decide, rfl, by decide⟩
  · exact ⟨totpRow, by decide, rfl, nofun, totpSecret, by decide, by decide⟩

theorem verifyEntry_needs_both_steps :
    service.SecondFactorPassed verifyEntry.instant verifyEntry.before alice.id
        verifyEntry.request ∧
      ∃ presented ∈ verifyEntry.request.presented,
        service.PendingTokenFor verifyEntry.instant alice.id presented ∧
        ∃ mint ∈ [loginEntry], service.MintsPending alice.id presented mint ∧
          mint.instant ≤ verifyEntry.instant ∧
          verifyEntry.instant < mint.instant + 5 * Time.minute :=
  access_needs_both_steps run_verifyEntry (List.nil_append _).symm grantsAccess_verifyEntry
    (.inl ⟨totpRow, by decide, rfl⟩)

end Sample

end Skolva.Auth
