import Skolva.Auth.EmailLockout
import Skolva.Auth.FailingCalls

/-! # Verification of an email code while the store fails

After one code has been issued, requests to verify it come one after the other, each
with its own failing calls. `verifyEmailOTP` drops the errors of seven of its calls.
-/

namespace Skolva.Auth

open Effect Time

variable (s : Service)

/-! ## What a request finds out -/

/-- The result of the comparison `VerifyEmail2FALogin` makes, if it gets to one. -/
def Service.failingComparison (fails : Nat → Op → Option CallError) (now : Nat) (db : Db)
    (u : Uuid) (code : Bytes) : Option Bool :=
  match ((Service.isEmail2FAEnabled u).run (serveFailing s.lib fails) now (0, db)).1 with
  | .ok true =>
      match ((Service.activeEmailOTP u).run (serveFailing s.lib fails) now (1, db)).1 with
      | .ok hash => some (s.lib.bcryptCompare hash code)
      | .error _ => none
  | _ => none

variable {s}

/-- The result of the comparison with the code of this user. -/
def Service.failingVerdict (u : Uuid) (entry : s.FailingEntry) : Option Bool :=
  match entry.request.call with
  | .verifyEmail2FALogin userID code =>
      if userID = u then
        s.failingComparison entry.request.fails entry.instant entry.before u code
      else none
  | _ => none

/-- The request is for this user and succeeds. -/
def Service.acceptsCode (u : Uuid) (entry : s.FailingEntry) : Bool :=
  match entry.request.call with
  | .verifyEmail2FALogin userID _ => userID = u ∧ entry.reply.isOk = true
  | _ => false

/-- No code is compared under a lock, one request at most is accepted, and at most five
wrong codes are compared. -/
structure Service.FailsClosed (u : Uuid) (history : List s.FailingEntry) : Prop where
  locked : ∀ entry ∈ history, Service.failingVerdict u entry ≠ none →
    ¬Service.EmailLockedAt entry.before entry.instant u
  accepted : history.countP (Service.acceptsCode u) ≤ 1
  guesses : history.countP (fun entry => Service.failingVerdict u entry = some false) ≤
    maxFailedAttempts

/-- A code has been issued at this instant: its hash and its expiry are stored. -/
structure Service.HasIssued (s : Service) (db : Db) (u : Uuid) (issuedAt : Nat) : Prop where
  hash : ∃ draw hash, s.lib.bcryptGenerate draw.salt (generateNumericOTP draw) = some hash ∧
    db.usersMeta u .email2faOTPHash = some hash
  expires : db.usersMeta u .email2faExpires = some (formatRFC3339 (issuedAt + email2faOTPExpiry))

/-- `issueEmailOTP` leaves an issued code behind when it succeeds, whatever failed. -/
theorem hasIssued_of_issueEmailOTP {s : Service} {fails : Nat → Op → Option CallError}
    {now index : Nat} {db : Db} {u : Uuid} {draw : OTPDraw} {email subject intro : String}
    (hok : ((s.issueEmailOTP draw u email subject intro).run (serveFailing s.lib fails) now
      (index, db)).1 = .ok ()) :
    s.HasIssued ((s.issueEmailOTP draw u email subject intro).run (serveFailing s.lib fails) now
      (index, db)).2.2 u now := by
  cases hhash : s.lib.bcryptGenerate draw.salt (generateNumericOTP draw) with
  | none =>
      unfold Service.issueEmailOTP at hok
      dsimp only at hok
      rw [hhash] at hok
      cases hok
  | some hash =>
      rw [s.run_issueEmailOTP_failing fails now db u email subject intro index hhash] at hok ⊢
      cases hfirst : fails index (.metaSet u .email2faOTPHash hash) with
      | some cause =>
          rw [hfirst] at hok
          cases hok
      | none =>
          cases hsecond : fails (index + 1) (.metaSet u .email2faExpires
              (formatRFC3339 (now + email2faOTPExpiry))) with
          | some cause =>
              rw [hfirst, hsecond] at hok
              cases hok
          | none =>
              dsimp only
              refine ⟨⟨draw, hash, hhash, ?_⟩, ?_⟩ <;>
                rw [attempted_meta, attempted_meta, attempted_meta] <;>
                simp [Service.storedEmailOTP, Db.setMeta_apply, Op.LeavesMeta]

/-- The factor is active, no lock is seen, and a live hash is read: the code is going to
be compared with it. -/
def Service.ReachesHash (fails : Nat → Op → Option CallError) (now : Nat) (db : Db) (u : Uuid)
    (hash : Text) : Prop :=
  (fails 0 (.metaGet u .email2faEnabled) = none ∧ db.EmailEnabled u) ∧
    Service.ComparesEmailOTP fails now 1 db u hash

/-- Where a code is going to be compared, the calls that matter succeed: the look-up of the
lock if one is in force; for a wrong code those that count it and set the lock it leads to;
for the correct one the deletion of the hash or of the expiry. -/
structure Service.KeepsGuards (s : Service) (fails : Nat → Op → Option CallError) (now : Nat)
    (db : Db) (u : Uuid) (code : Bytes) : Prop where
  lock : ∀ hash, Service.ReachesHash fails now db u hash →
    fails 1 (.metaGet u .email2faLocked) ≠ none → ¬Service.EmailLockedAt db now u
  counter : ∀ hash, Service.ReachesHash fails now db u hash →
    s.lib.bcryptCompare hash code = false →
    (fails 4 (.metaGet u .email2faAttempts) = none ∨ Service.emailAttempts db u = 0) ∧
      fails 5 (.metaSet u .email2faAttempts (itoa (Service.emailAttempts db u + 1))) = none
  locks : ∀ hash, Service.ReachesHash fails now db u hash →
    s.lib.bcryptCompare hash code = false →
    maxFailedAttempts ≤ Service.emailAttempts db u + 1 →
    fails 6 (.metaSet u .email2faLocked (formatRFC3339 (now + lockoutDuration))) = none
  consumed : ∀ hash, Service.ReachesHash fails now db u hash →
    s.lib.bcryptCompare hash code = true →
    fails 4 (.metaDelete u .email2faOTPHash) = none ∨
      fails 5 (.metaDelete u .email2faExpires) = none

/-! ## One request -/

section Run

variable (s) (fails : Nat → Op → Option CallError) (now : Nat) (db : Db) (u : Uuid)

theorem reachesHash_of_failingComparison {code : Bytes} {verdict : Bool}
    (hverdict : s.failingComparison fails now db u code = some verdict) :
    ∃ hash, Service.ReachesHash fails now db u hash ∧
      s.lib.bcryptCompare hash code = verdict := by
  unfold Service.failingComparison at hverdict
  rw [Service.run_isEmail2FAEnabled_at] at hverdict
  unfold Service.ReachesHash
  cases hread : fails 0 (.metaGet u .email2faEnabled) with
  | some cause =>
      rw [hread] at hverdict
      cases hverdict
  | none =>
      by_cases hon : db.usersMeta u .email2faEnabled = some textTrue
      · simp only [hread, hon, decide_true] at hverdict
        rcases s.run_activeEmailOTP_failing fails now 1 db u with
          ⟨hash, hcompares, hrun⟩ | ⟨hnone, err, count, hrun⟩
        · rw [hrun] at hverdict
          exact ⟨hash, ⟨⟨rfl, hon⟩, hcompares⟩, Option.some.inj hverdict⟩
        · rw [hrun] at hverdict
          cases hverdict
      · simp only [hread, hon, decide_false] at hverdict
        cases hverdict

/-- `VerifyEmail2FALogin` leaves the state alone, accepts the code or counts it. -/
theorem run_verifyEmail2FALogin_failing (code : Bytes) :
    match s.failingComparison fails now db u code with
    | none => ∃ err count, (s.verifyEmail2FALogin u code).run (serveFailing s.lib fails) now
        (0, db) = (.error err, count, db)
    | some true => (s.verifyEmail2FALogin u code).run (serveFailing s.lib fails) now (0, db) =
        (.ok (), 8, Service.acceptedEmailOTP fails now 4 db u s.lib)
    | some false => ∃ err count, (s.verifyEmail2FALogin u code).run (serveFailing s.lib fails) now
        (0, db) = (.error err, count, Service.rejectedEmailOTP fails now 4 db u s.lib) := by
  have henabled := Service.run_isEmail2FAEnabled_at s fails now db 0 u
  unfold Service.failingComparison Service.verifyEmail2FALogin
  rw [Program.run_bind, henabled]
  cases hread : fails 0 (.metaGet u .email2faEnabled) with
  | some cause => exact ⟨_, _, rfl⟩
  | none =>
      by_cases hon : db.usersMeta u .email2faEnabled = some textTrue
      · simp only [hon, decide_true]
        unfold Service.verifyEmailOTP
        rw [Program.run_bind]
        rcases s.run_activeEmailOTP_failing fails now 1 db u with
          ⟨hash, -, hrun⟩ | ⟨-, err, count, hrun⟩
        · simp only [hrun]
          cases hcode : s.lib.bcryptCompare hash code with
          | true => simp [Service.run_acceptEmailOTP_failing]
          | false =>
              obtain ⟨count, hreject⟩ := s.run_rejectEmailOTP_failing fails now 4 db u
              simp [hreject]
        · simp only [hrun]
          exact ⟨_, _, rfl⟩
      · simp only [hon, decide_false]
        exact ⟨_, _, rfl⟩

end Run

/-! ## What is left of the code -/

/-- How many requests the code has accepted and refused, and what the keys say of it: it
is gone for good, or the wrong codes are on the counter and the fifth has set a lock that
outlasts the code. -/
inductive Service.Accounted (db : Db) (u : Uuid) (issuedAt accepted wrong : Nat) : Prop where
  | gone (hgone : db.usersMeta u .email2faOTPHash = none ∨ db.usersMeta u .email2faExpires = none)
      (haccepted : accepted ≤ 1) (hwrong : wrong ≤ maxFailedAttempts)
  | live (hexpires : db.usersMeta u .email2faExpires =
        some (formatRFC3339 (issuedAt + email2faOTPExpiry)))
      (haccepted : accepted = 0) (hwrong : wrong ≤ maxFailedAttempts)
      (hcounted : wrong ≤ Service.emailAttempts db u)
      (hlocked : maxFailedAttempts ≤ wrong →
        ∃ instant ∈ (db.usersMeta u .email2faLocked).bind parseRFC3339,
          truncate (issuedAt + email2faOTPExpiry) < instant)

section Accounted

variable {fails : Nat → Op → Option CallError} {now issuedAt accepted wrong : Nat} {db : Db}
  {u : Uuid} {hash : Text}

/-- A hash that is reached belongs to a code that is live, and fewer than five wrong codes
have been compared with it. -/
theorem accounted_of_reachesHash (hcounts : Service.Accounted db u issuedAt accepted wrong)
    (hreaches : Service.ReachesHash fails now db u hash) (hlock : ¬Service.EmailLockedAt db now u) :
    accepted = 0 ∧ wrong < maxFailedAttempts ∧ wrong ≤ Service.emailAttempts db u ∧
      db.usersMeta u .email2faExpires = some (formatRFC3339 (issuedAt + email2faOTPExpiry)) := by
  obtain ⟨-, -, ⟨-, instant, hinstant, hle⟩, -, hstored⟩ := hreaches
  cases hcounts with
  | gone hgone _ _ =>
      rcases hgone with hgone | hgone
      · rw [hgone] at hstored
        cases hstored
      · rw [hgone] at hinstant
        cases hinstant
  | live hexpires haccepted hwrong hcounted hlocked =>
      refine ⟨haccepted, ?_, hcounted, hexpires⟩
      by_contra hmax
      obtain ⟨unlock, hunlock, hlong⟩ := hlocked (Nat.le_of_not_lt hmax)
      rw [hexpires] at hinstant
      obtain rfl : truncate (issuedAt + email2faOTPExpiry) = instant := Option.some.inj hinstant
      exact hlock ⟨unlock, hunlock, by omega⟩

/-- Where its calls succeed, a wrong code is counted as without failures. -/
theorem rejectedEmailOTP_eq (now : Nat)
    (hread : fails 4 (.metaGet u .email2faAttempts) = none ∨ Service.emailAttempts db u = 0)
    (hwrite : fails 5 (.metaSet u .email2faAttempts (itoa (Service.emailAttempts db u + 1))) = none)
    (hlock : maxFailedAttempts ≤ Service.emailAttempts db u + 1 →
      fails 6 (.metaSet u .email2faLocked (formatRFC3339 (now + lockoutDuration))) = none) :
    Service.rejectedEmailOTP fails now 4 db u s.lib = Service.countWrongOTP db now u := by
  have hattempts : Service.storedAttempts (valueOr none (readMeta fails 4 db u .email2faAttempts)) =
      Service.emailAttempts db u := by
    unfold readMeta
    cases hcall : fails 4 (.metaGet u .email2faAttempts) with
    | none => rfl
    | some cause =>
        rcases hread with hnone | hzero
        · rw [hnone] at hcall
          cases hcall
        · exact hzero.symm
  unfold Service.rejectedEmailOTP Service.countWrongOTP
  rw [hattempts]
  by_cases hmax : maxFailedAttempts ≤ Service.emailAttempts db u + 1
  · simp [hwrite, hlock hmax, if_pos hmax, serve]
  · simp [hwrite, if_neg hmax, serve]

/-- After a wrong code it is on the counter, and the fifth leads to the lock. -/
theorem accounted_rejected (hcounts : Service.Accounted db u issuedAt accepted wrong)
    {code : Bytes} (hkept : s.KeepsGuards fails now db u code) (hclock : issuedAt ≤ now)
    (hreaches : Service.ReachesHash fails now db u hash) (hlock : ¬Service.EmailLockedAt db now u)
    (hcompare : s.lib.bcryptCompare hash code = false) :
    Service.Accounted (Service.rejectedEmailOTP fails now 4 db u s.lib) u issuedAt accepted
      (wrong + 1) := by
  obtain ⟨rfl, hfew, hcounted, hexpires⟩ := accounted_of_reachesHash hcounts hreaches hlock
  obtain ⟨hread, hwrite⟩ := hkept.counter hash hreaches hcompare
  have hsame : Service.rejectedEmailOTP fails now 4 db u s.lib = Service.countWrongOTP db now u :=
    rejectedEmailOTP_eq now hread hwrite (hkept.locks hash hreaches hcompare)
  rw [hsame]
  refine .live ?_ rfl (by omega) ?_ ?_
  · rw [Service.countWrongOTP_key]
    simpa using hexpires
  · simpa [Service.emailAttempts, Service.countWrongOTP_key, Service.storedAttempts] using hcounted
  · intro hmax
    have hfull : maxFailedAttempts ≤ Service.emailAttempts db u + 1 := by omega
    refine ⟨truncate (now + lockoutDuration), ?_, ?_⟩
    · simp [Service.countWrongOTP_key, hfull]
    · have hlater : issuedAt + email2faOTPExpiry + second ≤ now + lockoutDuration := by
        simp only [email2faOTPExpiry, lockoutDuration, minute, second]
        omega
      exact truncate_lt_truncate hlater

/-- After the correct code nothing is left to compare with. -/
theorem accounted_accepted (hcounts : Service.Accounted db u issuedAt accepted wrong)
    {code : Bytes} (hkept : s.KeepsGuards fails now db u code)
    (hreaches : Service.ReachesHash fails now db u hash) (hlock : ¬Service.EmailLockedAt db now u)
    (hcompare : s.lib.bcryptCompare hash code = true) :
    Service.Accounted (Service.acceptedEmailOTP fails now 4 db u s.lib) u issuedAt (accepted + 1)
      wrong := by
  obtain ⟨rfl, hfew, -, -⟩ := accounted_of_reachesHash hcounts hreaches hlock
  refine .gone ?_ (by omega) (by omega)
  unfold Service.acceptedEmailOTP
  rcases hkept.consumed hash hreaches hcompare with hdelete | hdelete
  · left
    rw [attempted_meta, attempted_meta, attempted_meta]
    · simp [hdelete, serve]
    all_goals simp [Op.LeavesMeta]
  · right
    rw [attempted_meta, attempted_meta]
    · simp [hdelete, serve]
    all_goals simp [Op.LeavesMeta]

end Accounted

theorem accounted_congr {db after : Db} {u : Uuid} {issuedAt accepted wrong : Nat}
    (hsame : ∀ key, after.usersMeta u key = db.usersMeta u key)
    (hcounts : Service.Accounted db u issuedAt accepted wrong) :
    Service.Accounted after u issuedAt accepted wrong := by
  cases hcounts with
  | gone hgone haccepted hwrong =>
      refine .gone ?_ haccepted hwrong
      rwa [hsame, hsame]
  | live hexpires haccepted hwrong hcounted hlocked =>
      refine .live ?_ haccepted hwrong ?_ ?_
      · rwa [hsame]
      · rwa [Service.emailAttempts, hsame]
      · rwa [hsame]

/-! ## One request of a run -/

section Entry

variable {entry : s.FailingEntry} {u : Uuid} {issuedAt accepted wrong : Nat} {code : Bytes}

/-- Nothing is compared under a lock, where the look-up of the lock succeeds. -/
theorem not_locked_of_reachesHash {fails : Nat → Op → Option CallError} {now : Nat} {db : Db}
    {hash : Text} (hkept : s.KeepsGuards fails now db u code)
    (hreaches : Service.ReachesHash fails now db u hash) : ¬Service.EmailLockedAt db now u := by
  intro hlocked
  have hunseen : ¬(fails 1 (.metaGet u .email2faLocked) = none ∧
      Service.EmailLockedAt db now u) := hreaches.2.1
  exact hkept.lock hash hreaches (fun hread => hunseen ⟨hread, hlocked⟩) hlocked

/-- A request for another user leaves the keys alone. -/
theorem verify_leaves_other (now : Nat) (db : Db) {request : FailingCall} {other : Uuid}
    (hrequest : request.call = .verifyEmail2FALogin other code) (hother : other ≠ u)
    (key : MetaKey) :
    (s.processFailing now request db).2.usersMeta u key = db.usersMeta u key := by
  refine Service.processFailing_preserves
    (motive := fun store => store.usersMeta u key = db.usersMeta u key) ?_ rfl
  intro op store hop hstore
  rw [hrequest] at hop
  have hleaves : op.LeavesMeta u key := by
    cases op with
    | metaSet v written value | metaDelete v written =>
        rintro ⟨rfl, -⟩
        rcases hop with ⟨htouch, -⟩ | ⟨htouch, -⟩
        · exact hother htouch.symm
        · exact htouch
    | _ => trivial
  exact (serve_meta s.lib now store hleaves).trans hstore

/-- A request adds to the account what it finds out. -/
theorem accounted_entry
    (hprocess : s.processFailing entry.instant entry.request entry.before =
      (entry.reply, entry.after))
    {owner : Uuid} (hrequest : entry.request.call = .verifyEmail2FALogin owner code)
    (hkept : owner = u → s.KeepsGuards entry.request.fails entry.instant entry.before u code)
    (hclock : issuedAt ≤ entry.instant)
    (hcounts : Service.Accounted entry.before u issuedAt accepted wrong) :
    Service.Accounted entry.after u issuedAt
      (accepted + if Service.acceptsCode u entry = true then 1 else 0)
      (wrong + if Service.failingVerdict u entry = some false then 1 else 0) := by
  unfold Service.acceptsCode Service.failingVerdict
  rw [hrequest]
  by_cases howner : owner = u
  · subst howner
    have hguards := hkept rfl
    have hcall : s.call entry.request.call =
        s.answering (fun _ => .done) (s.verifyEmail2FALogin owner code) := by
      rw [hrequest]
      rfl
    have hrun := run_verifyEmail2FALogin_failing s entry.request.fails entry.instant entry.before
      owner code
    cases hverdict : s.failingComparison entry.request.fails entry.instant entry.before owner
        code with
    | none =>
        rw [hverdict] at hrun
        obtain ⟨err, count, hrun⟩ := hrun
        rw [Service.processFailing_eq hcall hrun] at hprocess
        obtain ⟨hreply, hafter⟩ := Prod.mk.inj hprocess
        rw [← hreply, ← hafter]
        simpa [Except.map, Except.isOk, Except.toBool, hverdict] using hcounts
    | some verdict =>
        obtain ⟨hash, hreaches, hcompare⟩ := reachesHash_of_failingComparison s _ _ _ _ hverdict
        have hunlocked := not_locked_of_reachesHash hguards hreaches
        rw [hverdict] at hrun
        cases verdict with
        | true =>
            rw [Service.processFailing_eq hcall hrun] at hprocess
            obtain ⟨hreply, hafter⟩ := Prod.mk.inj hprocess
            rw [← hreply, ← hafter]
            simpa [Except.map, Except.isOk, Except.toBool, hverdict] using
              accounted_accepted hcounts hguards hreaches hunlocked hcompare
        | false =>
            obtain ⟨err, count, hrun⟩ := hrun
            rw [Service.processFailing_eq hcall hrun] at hprocess
            obtain ⟨hreply, hafter⟩ := Prod.mk.inj hprocess
            rw [← hreply, ← hafter]
            simpa [Except.map, Except.isOk, Except.toBool, hverdict] using
              accounted_rejected hcounts hguards hclock hreaches hunlocked hcompare
  · have hafter : (s.processFailing entry.instant entry.request entry.before).2 = entry.after :=
      congrArg Prod.snd hprocess
    have hsame : ∀ key, entry.after.usersMeta u key = entry.before.usersMeta u key := by
      intro key
      rw [← hafter]
      exact verify_leaves_other _ _ hrequest howner key
    simpa [howner] using accounted_congr hsame hcounts

end Entry

/-! ## Runs -/

section Run

variable {start last : Db} {history : List s.FailingEntry} {u : Uuid} {issuedAt : Nat}

/-- The requests that come after the code has been issued. -/
structure Service.Verifies (u : Uuid) (issuedAt : Nat) (entry : s.FailingEntry) : Prop where
  request : ∃ owner code, entry.request.call = .verifyEmail2FALogin owner code
  clock : issuedAt ≤ entry.instant

/-- The calls that matter succeed in a request for this user. -/
def Service.GuardsKept (u : Uuid) (entry : s.FailingEntry) : Prop :=
  ∀ code, entry.request.call = .verifyEmail2FALogin u code →
    s.KeepsGuards entry.request.fails entry.instant entry.before u code

theorem accounted_of_run (hissued : s.HasIssued start u issuedAt)
    (hrun : s.FailingRun start history last)
    (hverifies : ∀ entry ∈ history, Service.Verifies u issuedAt entry)
    (hkept : ∀ entry ∈ history, Service.GuardsKept u entry) :
    Service.Accounted last u issuedAt (history.countP (Service.acceptsCode u))
      (history.countP fun entry => Service.failingVerdict u entry = some false) := by
  unfold Service.FailingRun at hrun
  induction hrun with
  | nil =>
      exact .live hissued.expires rfl (Nat.zero_le _) (Nat.zero_le _) (by simp [maxFailedAttempts])
  | @cons history before now request hhistory hadmissible ih =>
      have hearlier := ih (fun entry hentry => hverifies entry (List.mem_cons_of_mem _ hentry))
        fun entry hentry => hkept entry (List.mem_cons_of_mem _ hentry)
      obtain ⟨⟨owner, code, hrequest⟩, hclock⟩ := hverifies _ List.mem_cons_self
      have hguards := hkept _ List.mem_cons_self
      rw [List.countP_cons, List.countP_cons]
      simp only [decide_eq_true_eq]
      refine accounted_entry rfl hrequest ?_ hclock hearlier
      rintro rfl
      exact hguards code hrequest

/-- In a run where the guards are kept, verification fails closed. -/
theorem emailOTP_failsClosed (hissued : s.HasIssued start u issuedAt)
    (hrun : s.FailingRun start history last)
    (hverifies : ∀ entry ∈ history, Service.Verifies u issuedAt entry)
    (hkept : ∀ entry ∈ history, Service.GuardsKept u entry) :
    Service.FailsClosed u history := by
  have hcounts := accounted_of_run hissued hrun hverifies hkept
  constructor
  · intro entry hentry hverdict
    obtain ⟨⟨owner, code, hrequest⟩, -⟩ := hverifies entry hentry
    unfold Service.failingVerdict at hverdict
    rw [hrequest] at hverdict
    by_cases howner : owner = u
    · subst howner
      dsimp only at hverdict
      rw [if_pos rfl] at hverdict
      obtain ⟨verdict, hsome⟩ := Option.ne_none_iff_exists'.mp hverdict
      obtain ⟨hash, hreaches, -⟩ := reachesHash_of_failingComparison s _ _ _ _ hsome
      exact not_locked_of_reachesHash (hkept entry hentry code hrequest) hreaches
    · exact absurd (if_neg howner) hverdict
  · cases hcounts with
    | gone _ haccepted _ => exact haccepted
    | live _ haccepted _ _ _ => omega
  · cases hcounts with
    | gone _ _ hwrong => exact hwrong
    | live _ _ hwrong _ _ => exact hwrong

end Run

/-- Without failures the guards are kept. -/
theorem guardsKept_of_never {u : Uuid} {entry : s.FailingEntry}
    (hnever : entry.request.fails = fun _ _ => none) : Service.GuardsKept u entry := by
  intro code _
  rw [hnever]
  exact ⟨fun _ _ hfails => absurd rfl hfails, fun _ _ _ => ⟨.inl rfl, rfl⟩, fun _ _ _ _ => rfl,
    fun _ _ _ => .inl rfl⟩

namespace Sample

/-- Alice enters a code, while these calls fail. -/
def enter (seconds : Nat) (code : String) (fails : Nat → Op → Option CallError) :
    Db → service.FailingEntry :=
  service.failingEntryAt (seconds * second) ⟨.verifyEmail2FALogin alice.id (bytesOf code), fails⟩

theorem hasIssued_sent : service.HasIssued sent.after alice.id (1000 * second) where
  hash := ⟨⟨⟨123456, by decide⟩, 1000⟩, _, rfl, rfl⟩
  expires := rfl

/-- She enters two codes, one after the other. -/
def enterBoth (first second : String) (fails : Nat → Op → Option CallError) :
    List service.FailingEntry :=
  [enter 1002 second fails (enter 1001 first fails sent.after).after,
    enter 1001 first fails sent.after]

theorem run_enterBoth (first second : String) (fails : Nat → Op → Option CallError) :
    ∃ last, service.FailingRun sent.after (enterBoth first second fails) last := by
  have hfirst : service.FailingRun sent.after [enter 1001 first fails sent.after]
      (enter 1001 first fails sent.after).after :=
    Service.failingRun_first ..
  exact ⟨_, Service.failingRun_next hfirst (1002 * Time.second) _
    (show 1001 * Time.second ≤ 1002 * Time.second by decide)⟩

theorem verifies_enterBoth (first second : String) (fails : Nat → Op → Option CallError) :
    ∀ entry ∈ enterBoth first second fails,
      Service.Verifies alice.id (1000 * Time.second) entry := by
  intro entry hentry
  rcases List.mem_cons.mp hentry with rfl | hentry
  · exact ⟨⟨alice.id, bytesOf second, rfl⟩,
      show 1000 * Time.second ≤ 1002 * Time.second by decide⟩
  · rw [List.mem_singleton.mp hentry]
    exact ⟨⟨alice.id, bytesOf first, rfl⟩,
      show 1000 * Time.second ≤ 1001 * Time.second by decide⟩

/-- A wrong code, and then the one from the mail, without failures. -/
theorem enterBoth_failsClosed :
    Service.FailsClosed alice.id (enterBoth "000000" "123456" fun _ _ => none) := by
  obtain ⟨last, hrun⟩ := run_enterBoth "000000" "123456" fun _ _ => none
  refine emailOTP_failsClosed hasIssued_sent hrun (verifies_enterBoth _ _ _) ?_
  intro entry hentry
  apply guardsKept_of_never
  rcases List.mem_cons.mp hentry with rfl | hentry
  · rfl
  · rw [List.mem_singleton.mp hentry]
    rfl

/-- Neither the hash nor the expiry can be deleted. -/
def undeletable : Nat → Op → Option CallError :=
  fun index _ => if index = 4 ∨ index = 5 then some .unavailable else none

end Sample

/-- The code is accepted while its hash and its expiry cannot be deleted, and then again. -/
theorem not_forall_failsClosed :
    ¬∀ (s : Service) (start last : Db) (history : List s.FailingEntry) (u : Uuid) (issuedAt : Nat),
      s.HasIssued start u issuedAt → s.FailingRun start history last →
      (∀ entry ∈ history, Service.Verifies u issuedAt entry) → Service.FailsClosed u history := by
  intro hall
  obtain ⟨last, hrun⟩ := Sample.run_enterBoth "123456" "123456" Sample.undeletable
  have hclosed := hall Sample.service Sample.sent.after last _ Sample.alice.id (1000 * second)
    Sample.hasIssued_sent hrun (Sample.verifies_enterBoth _ _ _)
  have htwice : (Sample.enterBoth "123456" "123456" Sample.undeletable).countP
      (Service.acceptsCode Sample.alice.id) = 2 := by
    decide +kernel
  exact absurd (htwice ▸ hclosed.accepted) (by decide)

end Skolva.Auth
