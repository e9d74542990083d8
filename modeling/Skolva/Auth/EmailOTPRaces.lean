import Skolva.Auth.EmailOTPFaults
import Skolva.Auth.EmailOTPSession

/-! # One email code and many requests

After one code has been issued any number of requests verify codes at the same time.
The code is used once, and five wrong ones are compared with it at most, as long as a
hash is read only where no other comparison is still on its way into the store.
-/

namespace Skolva.Auth

open Effect Time

variable {s : Service} {Thread : Type}

/-- The next call of the thread. -/
def Service.NextCall (pool : s.CallPool Thread) (thread : Thread) (op : Op) : Prop :=
  ∃ next, pool.program thread = .call op next

/-- A call by which a wrong code is counted. -/
def Op.CountsEmailOTP (u : Uuid) : Op → Prop
  | .metaGet userID .email2faAttempts | .metaSet userID .email2faAttempts _
  | .metaSet userID .email2faLocked _ => userID = u
  | _ => False

variable (s)

/-- The hash is read for a correct code only while no other request is about to delete it,
and for a wrong one only while no other wrong code is being counted and the lock is still
the one that the request has read. -/
def Service.ComparesAlone (u : Uuid) (code : Thread → Bytes) (pool : s.CallPool Thread)
    (thread : Thread) (op : Op) : Prop :=
  op = .metaGet u .email2faOTPHash → ∀ hash, pool.store.usersMeta u .email2faOTPHash = some hash →
    if s.lib.bcryptCompare hash (code thread) = true then
      ∀ other, other ≠ thread → ¬Service.NextCall pool other (.metaDelete u .email2faOTPHash)
    else
      (∀ other op, other ≠ thread → Service.NextCall pool other op → ¬op.CountsEmailOTP u) ∧
        ∀ now lock, ⟨thread, now, .metaGet u .email2faLocked, .ok lock⟩ ∈ pool.trace →
          pool.store.usersMeta u .email2faLocked = lock

/-- The call reads a hash that the code of its thread does not fit. -/
def Service.comparesWrong (code : Thread → Bytes) : CallEvent Thread → Bool
  | ⟨thread, _, .metaGet _ .email2faOTPHash, .ok (some hash)⟩ =>
      !s.lib.bcryptCompare hash (code thread)
  | _ => false

/-! ## What is left of the code -/

/-- What a request that has yet to count its wrong code knows of the counter. -/
def OTPStage.Owes (wrong stored : Nat) : OTPStage → Prop
  | .counting => wrong ≤ stored + 1
  | .writing attempts => wrong ≤ attempts
  | .locking => wrong ≤ stored
  | _ => True

/-- The lock outlasts the code. -/
def OutlastsCode (expires : Text) (lock : Option Text) : Prop :=
  ∃ unlock ∈ lock.bind parseRFC3339, ∀ instant ∈ parseRFC3339 expires, instant < unlock

/-- The requests have compared so many wrong codes, and left these keys behind. -/
structure OTPAccount (hash expires : Text) (stage : Thread → OTPStage)
    (keys : MetaKey → Option Text) (wrong : Nat) : Prop where
  stored : keys .email2faOTPHash = some hash ∨ keys .email2faOTPHash = none
  expiry : keys .email2faExpires = some expires ∨ keys .email2faExpires = none
  read : ∀ thread lock text, stage thread = .comparing lock text → text = expires
  once : ∀ one other, (stage one).Accepting → (stage other).Accepting → one = other
  fresh : keys .email2faOTPHash = some hash → ∀ thread, (stage thread).Accepting →
    stage thread = .deleting emailOTPKeys
  bound : wrong ≤ maxFailedAttempts
  counted : keys .email2faOTPHash = some hash → (∀ thread, ¬(stage thread).Counting) →
    wrong ≤ Service.storedAttempts (keys .email2faAttempts) ∧
      (maxFailedAttempts ≤ wrong → OutlastsCode expires (keys .email2faLocked))
  alone : keys .email2faOTPHash = some hash → ∀ one other, (stage one).Counting →
    (stage other).Counting → one = other
  owes : keys .email2faOTPHash = some hash → ∀ thread,
    (stage thread).Owes wrong (Service.storedAttempts (keys .email2faAttempts))

namespace OTPAccount

variable {s} [DecidableEq Thread] {hash expires : Text} {stage : Thread → OTPStage}
  {keys : MetaKey → Option Text} {wrong : Nat} {thread : Thread} {new : OTPStage}

theorem update_iff {p : OTPStage → Prop} (hnew : ¬p new) (other : Thread) :
    p (Function.update stage thread new other) ↔ other ≠ thread ∧ p (stage other) := by
  by_cases hown : other = thread
  · subst hown
    simp [hnew]
  · simp [hown]

omit [DecidableEq Thread] in
theorem owes_of_not_counting {given : OTPStage} (hidle : ¬given.Counting) (wrong stored : Nat) :
    given.Owes wrong stored := by
  cases given with
  | counting | writing | locking => exact absurd trivial hidle
  | _ => trivial

section Step

variable (haccount : OTPAccount hash expires stage keys wrong)

include haccount

theorem read_update (hnew : ∀ lock text, new = .comparing lock text → text = expires)
    (other : Thread) (lock : Option Text) (text : Text)
    (hstage : Function.update stage thread new other = .comparing lock text) : text = expires := by
  by_cases hown : other = thread
  · subst hown
    rw [Function.update_self] at hstage
    exact hnew lock text hstage
  · rw [Function.update_of_ne hown] at hstage
    exact haccount.read other lock text hstage

/-- A request that does not accept leaves alone who does. -/
theorem accepting_update (hnew : ¬new.Accepting) :
    (∀ one other, (Function.update stage thread new one).Accepting →
      (Function.update stage thread new other).Accepting → one = other) ∧
    (keys .email2faOTPHash = some hash → ∀ other,
      (Function.update stage thread new other).Accepting →
        Function.update stage thread new other = .deleting emailOTPKeys) := by
  constructor
  · intro one other hone hother
    exact haccount.once one other ((update_iff hnew one).mp hone).2
      ((update_iff hnew other).mp hother).2
  · intro hlive other hother
    obtain ⟨hne, haccepting⟩ := (update_iff hnew other).mp hother
    rw [Function.update_of_ne hne]
    exact haccount.fresh hlive other haccepting

/-- A request that does not count leaves alone who does. -/
theorem counting_update (hold : ¬(stage thread).Counting) (hnew : ¬new.Counting)
    (hlive : keys .email2faOTPHash = some hash) :
    ((∀ other, ¬(Function.update stage thread new other).Counting) →
      wrong ≤ Service.storedAttempts (keys .email2faAttempts) ∧
        (maxFailedAttempts ≤ wrong → OutlastsCode expires (keys .email2faLocked))) ∧
    (∀ one other, (Function.update stage thread new one).Counting →
      (Function.update stage thread new other).Counting → one = other) ∧
    ∀ other, (Function.update stage thread new other).Owes wrong
      (Service.storedAttempts (keys .email2faAttempts)) := by
  refine ⟨fun hnone => haccount.counted hlive fun other hother => ?_, fun one other hone hother =>
    haccount.alone hlive one other ((update_iff hnew one).mp hone).2
      ((update_iff hnew other).mp hother).2, fun other => ?_⟩
  · have hne : other ≠ thread := by
      rintro rfl
      exact hold hother
    exact hnone other ((update_iff hnew other).mpr ⟨hne, hother⟩)
  · by_cases hown : other = thread
    · rw [hown, Function.update_self]
      exact owes_of_not_counting hnew _ _
    · rw [Function.update_of_ne hown]
      exact haccount.owes hlive other

/-- A request that compares nothing goes on. -/
theorem quiet (hold : ¬(stage thread).Counting) (hnew : ¬new.Accepting ∧ ¬new.Counting)
    (hread : ∀ lock text, new = .comparing lock text → text = expires) :
    OTPAccount hash expires (Function.update stage thread new) keys wrong where
  stored := haccount.stored
  expiry := haccount.expiry
  read := haccount.read_update hread
  once := (haccount.accepting_update hnew.1).1
  fresh := (haccount.accepting_update hnew.1).2
  bound := haccount.bound
  counted hlive := (haccount.counting_update hold hnew.2 hlive).1
  alone hlive := (haccount.counting_update hold hnew.2 hlive).2.1
  owes hlive := (haccount.counting_update hold hnew.2 hlive).2.2

/-- The correct code is compared. -/
theorem accepts (hold : ¬(stage thread).Counting)
    (hnone : ∀ other, other ≠ thread → ¬(stage other).Accepting) :
    OTPAccount hash expires (Function.update stage thread (.deleting emailOTPKeys)) keys wrong := by
  have hidle : ¬(OTPStage.deleting emailOTPKeys).Counting := id
  have honly : ∀ given, (Function.update stage thread (.deleting emailOTPKeys) given).Accepting →
      given = thread := by
    intro given hgiven
    by_contra hne
    rw [Function.update_of_ne hne] at hgiven
    exact hnone given hne hgiven
  refine ⟨haccount.stored, haccount.expiry, haccount.read_update fun _ _ => OTPStage.noConfusion,
    ?_, ?_, haccount.bound, fun hlive => (haccount.counting_update hold hidle hlive).1,
    fun hlive => (haccount.counting_update hold hidle hlive).2.1,
    fun hlive => (haccount.counting_update hold hidle hlive).2.2⟩
  · intro one other hone hother
    rw [honly one hone, honly other hother]
  · intro _ other hother
    rw [honly other hother, Function.update_self]

/-- A wrong code is compared, the stored lock being the one that was read. -/
theorem rejects (hlive : keys .email2faOTPHash = some hash) {text : Text}
    (hstage : stage thread = .comparing (keys .email2faLocked) text)
    (hopen : ∃ instant ∈ parseRFC3339 text,
      ∀ unlock ∈ (keys .email2faLocked).bind parseRFC3339, unlock ≤ instant)
    (hnone : ∀ other, other ≠ thread → ¬(stage other).Counting) :
    OTPAccount hash expires (Function.update stage thread .counting) keys (wrong + 1) := by
  have hidle : ∀ other, ¬(stage other).Counting := by
    intro other hother
    by_cases hown : other = thread
    · rw [hown, hstage] at hother
      exact hother
    · exact hnone other hown hother
  have honly : ∀ other, (Function.update stage thread .counting other).Counting →
      other = thread := by
    intro other hother
    by_contra hne
    rw [Function.update_of_ne hne] at hother
    exact hidle other hother
  obtain ⟨hcounted, hlocked⟩ := haccount.counted hlive hidle
  -- After five wrong codes the lock that was read would have to outlast the expiry.
  have hfew : wrong < maxFailedAttempts := by
    by_contra hmax
    obtain ⟨unlock, hunlock, hlong⟩ := hlocked (Nat.le_of_not_lt hmax)
    obtain ⟨instant, hinstant, hover⟩ := hopen
    rw [haccount.read thread _ text hstage] at hinstant
    exact absurd (hover unlock hunlock) (Nat.not_le_of_lt (hlong instant hinstant))
  have haccepting : ¬(OTPStage.counting).Accepting := id
  refine ⟨haccount.stored, haccount.expiry, haccount.read_update fun _ _ => OTPStage.noConfusion,
    (haccount.accepting_update haccepting).1, (haccount.accepting_update haccepting).2, hfew,
    ?_, ?_, ?_⟩
  · intro _ hcounting
    refine absurd ?_ (hcounting thread)
    rw [Function.update_self]
    trivial
  · intro _ one other hone hother
    rw [honly one hone, honly other hother]
  · intro _ other
    by_cases hown : other = thread
    · rw [hown, Function.update_self]
      exact Nat.succ_le_succ hcounted
    · rw [Function.update_of_ne hown]
      exact owes_of_not_counting (hidle other) _ _

/-- A key is deleted after the correct code, the hash first. -/
theorem deletes {key : MetaKey} {left : List MetaKey}
    (hstage : stage thread = .deleting (key :: left)) :
    OTPAccount hash expires (Function.update stage thread (.deleting left))
      (Function.update keys key none) wrong := by
  have hgone : Function.update keys key none .email2faOTPHash = none := by
    rcases haccount.stored with hlive | hnone
    · have hfresh := haccount.fresh hlive thread (by rw [hstage]; trivial)
      rw [hstage] at hfresh
      cases hfresh
      exact Function.update_self ..
    · by_cases hkey : key = .email2faOTPHash
      · rw [hkey, Function.update_self]
      · rw [Function.update_of_ne (Ne.symm hkey)]
        exact hnone
  have hlive : ∀ {p : Prop}, Function.update keys key none .email2faOTPHash = some hash → p := by
    intro p hsome
    rw [hgone] at hsome
    cases hsome
  have haccepting : ∀ other, (Function.update stage thread (.deleting left) other).Accepting →
      (stage other).Accepting := by
    intro other hother
    by_cases hown : other = thread
    · rw [hown, hstage]
      trivial
    · rw [Function.update_of_ne hown] at hother
      exact hother
  refine ⟨.inr hgone, ?_, haccount.read_update fun _ _ => OTPStage.noConfusion, ?_,
    fun hsome => hlive hsome, haccount.bound, fun hsome => hlive hsome, fun hsome => hlive hsome,
    fun hsome => hlive hsome⟩
  · by_cases hkey : key = .email2faExpires
    · rw [hkey, Function.update_self]
      exact .inr rfl
    · rw [Function.update_of_ne (Ne.symm hkey)]
      exact haccount.expiry
  · intro one other hone hother
    exact haccount.once one other (haccepting one hone) (haccepting other hother)

/-- A wrong code is on its way onto the counter. -/
theorem counts (hold : (stage thread).Counting) (hnew : ¬new.Accepting)
    (hread : ∀ lock text, new ≠ .comparing lock text) {keys' : MetaKey → Option Text}
    (hkeys : ∀ key, key ≠ .email2faAttempts → key ≠ .email2faLocked → keys' key = keys key)
    (howes : (stage thread).Owes wrong (Service.storedAttempts (keys .email2faAttempts)) →
      new.Owes wrong (Service.storedAttempts (keys' .email2faAttempts)))
    (hdone : ¬new.Counting →
      (stage thread).Owes wrong (Service.storedAttempts (keys .email2faAttempts)) →
      wrong ≤ Service.storedAttempts (keys' .email2faAttempts) ∧
        (maxFailedAttempts ≤ wrong → OutlastsCode expires (keys' .email2faLocked))) :
    OTPAccount hash expires (Function.update stage thread new) keys' wrong := by
  have hhash : keys' .email2faOTPHash = keys .email2faOTPHash := hkeys _ (by decide) (by decide)
  have hexpires : keys' .email2faExpires = keys .email2faExpires :=
    hkeys _ (by decide) (by decide)
  -- While the hash is there, nobody else is counting.
  have honly : keys .email2faOTPHash = some hash → ∀ other, (stage other).Counting →
      other = thread := fun hlive other hother => haccount.alone hlive other thread hother hold
  refine ⟨hhash ▸ haccount.stored, hexpires ▸ haccount.expiry,
    haccount.read_update fun lock text hstage => absurd hstage (hread lock text),
    (haccount.accepting_update hnew).1, ?_, haccount.bound, ?_, ?_, ?_⟩
  · rw [hhash]
    exact (haccount.accepting_update hnew).2
  · rw [hhash]
    intro hlive hnone
    have hfinished := hnone thread
    rw [Function.update_self] at hfinished
    exact hdone hfinished (haccount.owes hlive thread)
  · rw [hhash]
    have hcounting : keys .email2faOTPHash = some hash → ∀ other,
        (Function.update stage thread new other).Counting → other = thread := by
      intro hlive other hother
      by_contra hne
      rw [Function.update_of_ne hne] at hother
      exact hne (honly hlive other hother)
    intro hlive one other hone hother
    rw [hcounting hlive one hone, hcounting hlive other hother]
  · rw [hhash]
    intro hlive other
    by_cases hown : other = thread
    · rw [hown, Function.update_self]
      exact howes (haccount.owes hlive thread)
    · rw [Function.update_of_ne hown]
      exact owes_of_not_counting (fun hother => hown (honly hlive other hother)) _ _

end Step

end OTPAccount

/-! ## Requests in a pool -/

section Pool

variable {s} [DecidableEq Thread] {u : Uuid} {code : Thread → Bytes} {opening latest : Nat}
  {free : Thread → Nat} {start : Db} {pool last : s.CallPool Thread}
  {allowed : s.CallPool Thread → Thread → Op → Prop}

/-- Where the requests have come to. -/
def Service.otpStages (s : Service) (u : Uuid) (code : Thread → Bytes) (opening : Nat)
    (pool : s.CallPool Thread) (thread : Thread) : OTPStage :=
  (s.otpSession u (code thread) opening).along thread pool.trace

theorem ends_map {α β : Type} (f : α → β) {result : Except Err α} {stage : OTPStage}
    (hends : stage.Ends result) : stage.Ends (result.map f) := by
  have hsame : (result.map f).isOk = result.isOk := by cases result <;> rfl
  unfold OTPStage.Ends at hends ⊢
  rw [hsame]
  exact hends

/-- Every request keeps to its session. -/
theorem otp_follows
    (hclocked : Pool.Clocked (serve s.lib) allowed
      (s.startPool start fun thread => .verifyEmail2FALogin u (code thread)) opening pool latest
      free) (thread : Thread) :
    (pool.program thread).FollowsFrom (s.otpSession u (code thread) opening)
      (fun stage _ outcome => stage.Ends outcome) (s.otpStages u code opening pool thread)
      (free thread) := by
  have hstart : ∀ thread, ((s.startPool start fun thread =>
      .verifyEmail2FALogin u (code thread)).program thread).FollowsFrom
        (s.otpSession u (code thread) opening) (fun stage _ outcome => stage.Ends outcome)
        (s.otpSession u (code thread) opening).first opening := fun thread =>
    Program.followsFrom_map
      ((followsFrom_verifyEmail2FALogin le_rfl).imp fun _ _ _ hends => ends_map _ hends)
  exact hclocked.follows rfl hstart thread

/-- A request is done, or about to make the call its stage allows. -/
theorem otp_next
    (hclocked : Pool.Clocked (serve s.lib) allowed
      (s.startPool start fun thread => .verifyEmail2FALogin u (code thread)) opening pool latest
      free) (thread : Thread) :
    (∃ outcome, pool.program thread = .done outcome ∧
      (s.otpStages u code opening pool thread).Ends outcome) ∨
    ∃ op, Service.NextCall pool thread op ∧
      (s.otpStages u code opening pool thread).Allows u opening op := by
  have hfollows := otp_follows hclocked thread
  have hsettled := hclocked.reaches.settled (fun _ => .inr ⟨_, _, rfl⟩) thread
  rcases hsettled with ⟨outcome, hdone⟩ | ⟨op, next, hcall⟩
  · rw [hdone] at hfollows
    exact .inl ⟨outcome, hdone, hfollows⟩
  · rw [hcall] at hfollows
    exact .inr ⟨op, ⟨next, hcall⟩, hfollows.1⟩

theorem otpStages_advance (thread : Thread) (now : Nat) (readings : Nat → Nat) (op : Op)
    (next : op.Resp → Prog s.Outcome) :
    s.otpStages u code opening (pool.advance (serve s.lib) thread now readings op next) =
      Function.update (s.otpStages u code opening pool) thread
        ((s.otpStages u code opening pool thread).after s (code thread) op
          (serve s.lib now op pool.store).1) :=
  Session.along_advance thread now readings op next fun thread => s.otpSession u (code thread) opening

/-- The stage after a call tells of the lock that the call has read, or of the one read
before. -/
theorem lock_of_after {stage : OTPStage} {op : Op} (hallows : stage.Allows u opening op)
    {checked : Bytes} {now : Nat} {db : Db} {lock : Option Text}
    (hafter : stage.after s checked op (serve s.lib now op db).1 = .expiry lock ∨
      ∃ text, stage.after s checked op (serve s.lib now op db).1 = .comparing lock text) :
    (op = .metaGet u .email2faLocked ∧ db.usersMeta u .email2faLocked = lock) ∨
      stage = .expiry lock := by
  cases stage with
  | enabled =>
      obtain rfl := hallows
      rcases hafter with hafter | ⟨text, hafter⟩ <;>
        (simp only [OTPStage.after, serve] at hafter; split at hafter <;> cases hafter)
  | locked =>
      obtain rfl := hallows
      refine .inl ⟨rfl, ?_⟩
      rcases hafter with hafter | ⟨text, hafter⟩
      · exact OTPStage.expiry.inj hafter
      · cases hafter
  | expiry seen =>
      obtain rfl := hallows
      refine .inr ?_
      cases hexpires : db.usersMeta u .email2faExpires with
      | none => simp [OTPStage.after, serve, hexpires] at hafter
      | some text => simpa [OTPStage.after, serve, hexpires] using hafter
  | comparing seen expires =>
      obtain ⟨rfl, -⟩ := hallows
      cases hhash : db.usersMeta u .email2faOTPHash with
      | none => simp [OTPStage.after, serve, hhash] at hafter
      | some hash =>
          simp only [OTPStage.after, serve, hhash] at hafter
          split at hafter <;> simp at hafter
  | deleting keys =>
      cases keys with
      | nil => exact hallows.elim
      | cons key keys => simp [OTPStage.after] at hafter
  | counting =>
      obtain rfl := hallows
      simp [OTPStage.after] at hafter
  | writing attempts =>
      simp only [OTPStage.after] at hafter
      split at hafter <;> simp at hafter
  | locking => simp [OTPStage.after] at hafter
  | refused => exact hallows.elim

/-- A request that goes by a lock has read it. -/
theorem lock_read
    (hclocked : Pool.Clocked (serve s.lib) allowed
      (s.startPool start fun thread => .verifyEmail2FALogin u (code thread)) opening pool latest
      free) (thread : Thread) (lock : Option Text)
    (hstage : s.otpStages u code opening pool thread = .expiry lock ∨
      ∃ text, s.otpStages u code opening pool thread = .comparing lock text) :
    ∃ now, ⟨thread, now, .metaGet u .email2faLocked, .ok lock⟩ ∈ pool.trace := by
  revert thread lock
  apply hclocked.invariant (motive := fun pool => ∀ thread lock,
    (s.otpStages u code opening pool thread = .expiry lock ∨
      ∃ text, s.otpStages u code opening pool thread = .comparing lock text) →
    ∃ now, ⟨thread, now, .metaGet u .email2faLocked, .ok lock⟩ ∈ pool.trace)
  · rintro thread lock (hstage | ⟨text, hstage⟩) <;> cases hstage
  · intro pool latest free caller now readings op next hpool hread hprogram _ thread lock hstage
    rw [otpStages_advance] at hstage
    by_cases hown : thread = caller
    · subst hown
      rw [Function.update_self] at hstage
      have hfollows := otp_follows hpool thread
      rw [hprogram] at hfollows
      rcases lock_of_after hfollows.1 hstage with ⟨rfl, rfl⟩ | hbefore
      · exact ⟨now, List.mem_cons_self⟩
      · obtain ⟨earlier, hmem⟩ := hread thread lock (.inl hbefore)
        exact ⟨earlier, List.mem_cons_of_mem _ hmem⟩
    · rw [Function.update_of_ne hown] at hstage
      obtain ⟨earlier, hmem⟩ := hread thread lock hstage
      exact ⟨earlier, List.mem_cons_of_mem _ hmem⟩

/-- A request that is about to delete the hash has only this call to make. -/
theorem next_of_accepting {stage : OTPStage} (hstage : stage = .deleting emailOTPKeys) {op : Op}
    (hallows : stage.Allows u opening op) : op = .metaDelete u .email2faOTPHash := by
  subst hstage
  exact hallows

theorem next_of_counting {stage : OTPStage} (hcounting : stage.Counting) {op : Op}
    (hallows : stage.Allows u opening op) : op.CountsEmailOTP u := by
  cases stage with
  | counting =>
      obtain rfl := hallows
      exact rfl
  | writing attempts =>
      obtain rfl := hallows
      exact rfl
  | locking =>
      obtain ⟨now, -, rfl⟩ := hallows
      exact rfl
  | _ => exact hcounting.elim

/-- The account of the pool: its stages, its keys and the wrong codes compared so far. -/
def Service.OTPAccounted (s : Service) (u : Uuid) (code : Thread → Bytes) (opening : Nat)
    (hash expires : Text) (pool : s.CallPool Thread) : Prop :=
  OTPAccount hash expires (s.otpStages u code opening pool) (pool.store.usersMeta u)
    (pool.trace.countP (s.comparesWrong code))

/-! ## One call of a verification -/

section Stages

variable {hash expires : Text} {thread : Thread}

/-- A request that has compared nothing is refused. -/
theorem otpAccount_refused (haccount : s.OTPAccounted u code opening hash expires pool)
    (hidle : ¬(s.otpStages u code opening pool thread).Counting) :
    OTPAccount hash expires (Function.update (s.otpStages u code opening pool) thread .refused)
      (pool.store.usersMeta u) (pool.trace.countP (s.comparesWrong code)) :=
  OTPAccount.quiet haccount hidle ⟨id, id⟩ fun _ _ => OTPStage.noConfusion

/-- The flag is read. -/
theorem otpAccount_enabled (haccount : s.OTPAccounted u code opening hash expires pool)
    (hstage : s.otpStages u code opening pool thread = .enabled) (now : Nat) :
    OTPAccount hash expires
      (Function.update (s.otpStages u code opening pool) thread
        (OTPStage.after s (code thread) .enabled (.metaGet u .email2faEnabled)
          (serve s.lib now (.metaGet u .email2faEnabled) pool.store).1))
      (pool.store.usersMeta u) (pool.trace.countP (s.comparesWrong code)) := by
  have hidle : ¬(s.otpStages u code opening pool thread).Counting := by
    rw [hstage]
    exact id
  simp only [OTPStage.after, serve]
  split
  · exact OTPAccount.quiet haccount hidle ⟨id, id⟩ fun _ _ => OTPStage.noConfusion
  · exact otpAccount_refused haccount hidle

/-- The expiry is read. It is the issued one, or gone. -/
theorem otpAccount_expiry {lock : Option Text}
    (haccount : s.OTPAccounted u code opening hash expires pool)
    (hstage : s.otpStages u code opening pool thread = .expiry lock) (now : Nat) :
    OTPAccount hash expires
      (Function.update (s.otpStages u code opening pool) thread
        (OTPStage.after s (code thread) (.expiry lock) (.metaGet u .email2faExpires)
          (serve s.lib now (.metaGet u .email2faExpires) pool.store).1))
      (pool.store.usersMeta u) (pool.trace.countP (s.comparesWrong code)) := by
  have hidle : ¬(s.otpStages u code opening pool thread).Counting := by
    rw [hstage]
    exact id
  rcases haccount.expiry with hlive | hnone
  · simp only [OTPStage.after, serve, hlive]
    refine OTPAccount.quiet haccount hidle ⟨id, id⟩ ?_
    intro seen text hnew
    exact (OTPStage.comparing.inj hnew).2.symm
  · simp only [OTPStage.after, serve, hnone]
    exact otpAccount_refused haccount hidle

/-- The count is written. The fifth wrong code is still to be locked out. -/
theorem otpAccount_writing {attempts : Nat}
    (haccount : s.OTPAccounted u code opening hash expires pool)
    (hstage : s.otpStages u code opening pool thread = .writing attempts) :
    OTPAccount hash expires
      (Function.update (s.otpStages u code opening pool) thread
        (if maxFailedAttempts ≤ attempts then .locking else .refused))
      ((pool.store.setMeta u .email2faAttempts (some (itoa attempts))).usersMeta u)
      (pool.trace.countP (s.comparesWrong code)) := by
  have hcounting : (s.otpStages u code opening pool thread).Counting := by
    rw [hstage]
    trivial
  have hkey : ∀ key, key ≠ .email2faAttempts → key ≠ .email2faLocked →
      (pool.store.setMeta u .email2faAttempts (some (itoa attempts))).usersMeta u key =
        pool.store.usersMeta u key := fun key hkey _ => Db.setMeta_otherKey _ _ _ _ hkey
  have hstored : Service.storedAttempts ((pool.store.setMeta u .email2faAttempts
      (some (itoa attempts))).usersMeta u .email2faAttempts) = attempts := by
    rw [Db.setMeta_self]
    rfl
  by_cases hmax : maxFailedAttempts ≤ attempts
  · rw [if_pos hmax]
    refine OTPAccount.counts haccount hcounting id (fun _ _ => OTPStage.noConfusion) hkey ?_
      fun hdone => absurd trivial hdone
    rw [hstage]
    intro howes
    exact howes.trans hstored.ge
  · rw [if_neg hmax]
    refine OTPAccount.counts haccount hcounting id (fun _ _ => OTPStage.noConfusion) hkey
      (fun _ => trivial) fun _ howes => ?_
    rw [hstage] at howes
    exact ⟨howes.trans hstored.ge, fun hfull => absurd (hfull.trans howes) hmax⟩

/-- A lock is written, which outlasts the code. -/
theorem otpAccount_locking {instant : Nat} (hlater : opening ≤ instant)
    (haccount : s.OTPAccounted u code opening hash
      (formatRFC3339 (opening + email2faOTPExpiry)) pool)
    (hstage : s.otpStages u code opening pool thread = .locking) :
    OTPAccount hash (formatRFC3339 (opening + email2faOTPExpiry))
      (Function.update (s.otpStages u code opening pool) thread .refused)
      ((pool.store.setMeta u .email2faLocked
        (some (formatRFC3339 (instant + lockoutDuration)))).usersMeta u)
      (pool.trace.countP (s.comparesWrong code)) := by
  have hcounting : (s.otpStages u code opening pool thread).Counting := by
    rw [hstage]
    trivial
  have hkey : ∀ key, key ≠ .email2faLocked →
      (pool.store.setMeta u .email2faLocked
        (some (formatRFC3339 (instant + lockoutDuration)))).usersMeta u key =
          pool.store.usersMeta u key := fun key hkey => Db.setMeta_otherKey _ _ _ _ hkey
  have hlock : OutlastsCode (formatRFC3339 (opening + email2faOTPExpiry))
      (some (formatRFC3339 (instant + lockoutDuration))) := by
    refine ⟨truncate (instant + lockoutDuration), rfl, fun expiry hexpiry => ?_⟩
    obtain rfl : truncate (opening + email2faOTPExpiry) = expiry := Option.some.inj hexpiry
    apply truncate_lt_truncate
    simp only [email2faOTPExpiry, lockoutDuration, minute, second]
    omega
  refine OTPAccount.counts haccount hcounting id (fun _ _ => OTPStage.noConfusion)
    (fun key _ => hkey key) (fun _ => trivial) fun _ howes => ?_
  rw [hstage] at howes
  constructor
  · exact (hkey .email2faAttempts (by decide)).symm ▸ howes
  · intro _
    exact (pool.store.setMeta_self u .email2faLocked _).symm ▸ hlock

end Stages

section Step

variable {hash : Text} {thread : Thread} {op : Op} {next : op.Resp → Prog s.Outcome}
  (hclocked : Pool.Clocked (serve s.lib) (s.ComparesAlone u code)
    (s.startPool start fun thread => .verifyEmail2FALogin u (code thread)) opening pool latest free)
  (hprogram : pool.program thread = .call op next)
  (hallowed : s.ComparesAlone u code pool thread op)

include hclocked

/-- While the hash is stored and nobody is about to delete it, nobody has accepted. -/
theorem not_accepting_of_next {expires : Text}
    (haccount : s.OTPAccounted u code opening hash expires pool)
    (hlive : pool.store.usersMeta u .email2faOTPHash = some hash)
    (hnext : ∀ other, other ≠ thread →
      ¬Service.NextCall pool other (.metaDelete u .email2faOTPHash)) :
    ∀ other, other ≠ thread → ¬(s.otpStages u code opening pool other).Accepting := by
  intro other hother haccepting
  have hfresh := haccount.fresh hlive other haccepting
  rcases otp_next hclocked other with ⟨outcome, -, hends⟩ | ⟨op, hcall, hallows⟩
  · rw [hfresh] at hends
    exact hends
  · rw [next_of_accepting hfresh hallows] at hcall
    exact hnext other hother hcall

theorem not_counting_of_next
    (hnext : ∀ other op, other ≠ thread → Service.NextCall pool other op → ¬op.CountsEmailOTP u) :
    ∀ other, other ≠ thread → ¬(s.otpStages u code opening pool other).Counting := by
  intro other hother hcounting
  rcases otp_next hclocked other with ⟨outcome, -, hends⟩ | ⟨op, hcall, hallows⟩
  · generalize s.otpStages u code opening pool other = stage at hcounting hends
    cases stage with
    | counting | writing | locking => exact hends
    | _ => exact hcounting
  · exact hnext other op hother hcall (next_of_counting hcounting hallows)

/-- The hash is read, and the code compared with it. -/
theorem otpAccount_compared {expires : Text} {lock : Option Text} {text : Text}
    (hstage : s.otpStages u code opening pool thread = .comparing lock text)
    (hallowed : s.ComparesAlone u code pool thread (.metaGet u .email2faOTPHash))
    (hopen : ∃ instant ∈ parseRFC3339 text, ∀ unlock ∈ lock.bind parseRFC3339, unlock ≤ instant)
    (haccount : s.OTPAccounted u code opening hash expires pool)
    (hlive : pool.store.usersMeta u .email2faOTPHash = some hash) :
    OTPAccount hash expires
      (Function.update (s.otpStages u code opening pool) thread
        (if s.lib.bcryptCompare hash (code thread) then .deleting emailOTPKeys else .counting))
      (pool.store.usersMeta u)
      (pool.trace.countP (s.comparesWrong code) +
        if s.lib.bcryptCompare hash (code thread) then 0 else 1) := by
  have hguard := hallowed rfl hash hlive
  have hidle : ¬(s.otpStages u code opening pool thread).Counting := by
    rw [hstage]
    exact id
  by_cases hcompare : s.lib.bcryptCompare hash (code thread) = true
  · rw [if_pos hcompare] at hguard
    rw [if_pos hcompare, if_pos hcompare]
    exact OTPAccount.accepts haccount hidle
      (not_accepting_of_next hclocked haccount hlive hguard)
  · rw [if_neg hcompare] at hguard
    rw [if_neg hcompare, if_neg hcompare]
    obtain ⟨hnext, hlock⟩ := hguard
    obtain ⟨instant, hread⟩ := lock_read hclocked thread lock (.inr ⟨text, hstage⟩)
    obtain rfl := hlock instant lock hread
    exact OTPAccount.rejects haccount hlive hstage hopen (not_counting_of_next hclocked hnext)

include hprogram hallowed

/-- Every step keeps the account. -/
theorem otpAccounted_advance (now : Nat) (readings : Nat → Nat)
    (haccount : s.OTPAccounted u code opening hash
      (formatRFC3339 (opening + email2faOTPExpiry)) pool) :
    s.OTPAccounted u code opening hash (formatRFC3339 (opening + email2faOTPExpiry))
      (pool.advance (serve s.lib) thread now readings op next) := by
  have hallows : (s.otpStages u code opening pool thread).Allows u opening op := by
    have hfollows := otp_follows hclocked thread
    rw [hprogram] at hfollows
    exact hfollows.1
  unfold Service.OTPAccounted
  rw [otpStages_advance, Pool.advance_store, Pool.advance_trace, List.countP_cons]
  cases hstage : s.otpStages u code opening pool thread with
  | enabled =>
      rw [hstage] at hallows
      obtain rfl := hallows
      exact otpAccount_enabled haccount hstage now
  | locked =>
      rw [hstage] at hallows
      obtain rfl := hallows
      exact OTPAccount.quiet haccount (by rw [hstage]; exact id) ⟨id, id⟩
        fun _ _ => OTPStage.noConfusion
  | expiry lock =>
      rw [hstage] at hallows
      obtain rfl := hallows
      exact otpAccount_expiry haccount hstage now
  | comparing lock text =>
      rw [hstage] at hallows
      obtain ⟨rfl, hopen⟩ := hallows
      rcases haccount.stored with hlive | hnone
      · have hcompared := otpAccount_compared hclocked hstage hallowed hopen haccount hlive
        have hafter : OTPStage.after s (code thread) (.comparing lock text)
            (.metaGet u .email2faOTPHash)
            (serve s.lib now (.metaGet u .email2faOTPHash) pool.store).1 =
              if s.lib.bcryptCompare hash (code thread) then .deleting emailOTPKeys
              else .counting := by
          simp [OTPStage.after, serve, hlive]
        have hcount : s.comparesWrong code ⟨thread, now, .metaGet u .email2faOTPHash,
            (serve s.lib now (.metaGet u .email2faOTPHash) pool.store).1⟩ =
              !s.lib.bcryptCompare hash (code thread) := by
          simp [Service.comparesWrong, serve, hlive]
        rw [hafter, hcount]
        cases hcompare : s.lib.bcryptCompare hash (code thread) <;>
          simpa [hcompare, serve] using hcompared
      · have hafter : OTPStage.after s (code thread) (.comparing lock text)
            (.metaGet u .email2faOTPHash)
            (serve s.lib now (.metaGet u .email2faOTPHash) pool.store).1 = .refused := by
          simp [OTPStage.after, serve, hnone]
        have hcount : s.comparesWrong code ⟨thread, now, .metaGet u .email2faOTPHash,
            (serve s.lib now (.metaGet u .email2faOTPHash) pool.store).1⟩ = false := by
          simp [Service.comparesWrong, serve, hnone]
        rw [hafter, hcount]
        exact otpAccount_refused haccount (by rw [hstage]; exact id)
  | deleting keys =>
      cases keys with
      | nil =>
          rw [hstage] at hallows
          exact hallows.elim
      | cons key left =>
          rw [hstage] at hallows
          obtain rfl := hallows
          have hdeleted := OTPAccount.deletes haccount hstage
          rw [← Db.setMeta_keys] at hdeleted
          exact hdeleted
  | counting =>
      rw [hstage] at hallows
      obtain rfl := hallows
      refine OTPAccount.counts haccount (by rw [hstage]; trivial) id
        (fun _ _ => OTPStage.noConfusion) (fun _ _ _ => rfl) ?_ fun hdone => absurd trivial hdone
      rw [hstage]
      exact id
  | writing attempts =>
      rw [hstage] at hallows
      obtain rfl := hallows
      exact otpAccount_writing haccount hstage
  | locking =>
      rw [hstage] at hallows
      obtain ⟨instant, hlater, rfl⟩ := hallows
      exact otpAccount_locking hlater haccount hstage
  | refused =>
      rw [hstage] at hallows
      exact hallows.elim

end Step

/-! ## Runs -/

theorem otpAccounted_of_run {hash : Text}
    (hhash : start.usersMeta u .email2faOTPHash = some hash)
    (hexpires : start.usersMeta u .email2faExpires =
      some (formatRFC3339 (opening + email2faOTPExpiry)))
    (hclocked : Pool.Clocked (serve s.lib) (s.ComparesAlone u code)
      (s.startPool start fun thread => .verifyEmail2FALogin u (code thread)) opening last latest
      free) :
    s.OTPAccounted u code opening hash (formatRFC3339 (opening + email2faOTPExpiry)) last := by
  apply hclocked.invariant (motive := s.OTPAccounted u code opening hash
    (formatRFC3339 (opening + email2faOTPExpiry)))
  · refine ⟨.inl hhash, .inl hexpires, fun _ _ _ => OTPStage.noConfusion, fun _ _ hone => hone.elim,
      fun _ _ hthread => hthread.elim, Nat.zero_le _, fun _ _ => ⟨Nat.zero_le _, ?_⟩,
      fun _ _ _ hone => hone.elim, fun _ _ => trivial⟩
    intro hfull
    have hzero : maxFailedAttempts ≤ 0 := hfull
    exact absurd hzero (by decide)
  · intro pool latest free thread now readings op next hpool haccount hprogram hallowed
    exact otpAccounted_advance hpool hprogram hallowed now readings haccount

/-- After one code has been issued one request at most is accepted, and five wrong codes at
most are compared with its hash, as long as codes are compared one at a time. -/
theorem emailOTP_single_use (hissued : s.HasIssued start u opening)
    (hclocked : Pool.Clocked (serve s.lib) (s.ComparesAlone u code)
      (s.startPool start fun thread => .verifyEmail2FALogin u (code thread)) opening last latest
      free) :
    (∀ one other, one ≠ other →
      ¬(last.program one = .done (.ok .done) ∧ last.program other = .done (.ok .done))) ∧
    last.trace.countP (s.comparesWrong code) ≤ 5 := by
  obtain ⟨⟨draw, hash, -, hhash⟩, hexpires⟩ := hissued
  have haccount := otpAccounted_of_run hhash hexpires hclocked
  have haccepted : ∀ thread, last.program thread = .done (.ok .done) →
      (s.otpStages u code opening last thread).Accepting := by
    intro thread hdone
    have hfollows := otp_follows hclocked thread
    rw [hdone] at hfollows
    have hends : (s.otpStages u code opening last thread).Ends (.ok .done : s.Outcome) := hfollows
    generalize s.otpStages u code opening last thread = stage at hends
    cases stage with
    | deleting keys => trivial
    | _ => cases hends
  constructor
  · rintro one other hdistinct ⟨hone, hother⟩
    exact hdistinct (haccount.once one other (haccepted one hone) (haccepted other hother))
  · exact haccount.bound

end Pool

namespace Sample

/-- Two requests with the code from the mail. -/
def verifyBoth : service.CallPool Bool :=
  service.startPool sent.after fun _ => .verifyEmail2FALogin alice.id (bytesOf "123456")

/-- Both requests read the hash before one of them deletes it. -/
def verifyRaced : service.CallPool Bool :=
  verifyBoth.schedule (serve service.lib)
    ((List.replicate 4 true ++ List.replicate 8 false ++ List.replicate 4 true).map
      (·, 1001 * second))

theorem verifyRaced_accepted (thread : Bool) :
    verifyRaced.program thread = .done (.ok .done) := by
  cases thread <;> rfl

/-- The second request reads the hash once the first one has deleted it. -/
def verifyInTurn : service.CallPool Bool :=
  verifyBoth.schedule (serve service.lib)
    ((List.replicate 5 true ++ List.replicate 4 false).map (·, 1001 * second))

theorem clocked_verifyInTurn :
    ∃ free, Pool.Clocked (serve service.lib)
      (service.ComparesAlone alice.id fun _ => bytesOf "123456") verifyBoth (1000 * second)
      verifyInTurn (1001 * second) free := by
  have hother : ∀ (pool : service.CallPool Bool) (thread : Bool) (op : Op),
      op ≠ .metaGet alice.id .email2faOTPHash →
      service.ComparesAlone alice.id (fun _ => bytesOf "123456") pool thread op :=
    fun _ _ _ hne hop => absurd hop hne
  have hopening : 1000 * second ≤ 1001 * second := by decide
  have hnow : 1001 * second ≤ 1001 * second := le_rfl
  have hstart : Pool.Clocked (serve service.lib)
      (service.ComparesAlone alice.id fun _ => bytesOf "123456") verifyBoth (1000 * second)
      verifyBoth (1000 * second) (fun _ => 1000 * second) := .start
  obtain ⟨_, henabled, hfree⟩ :=
    hstart.turn true hopening (fun _ => hopening) rfl (hother _ _ _ (by decide))
  obtain ⟨_, hlocked, hfree⟩ := henabled.turn true hnow hfree rfl (hother _ _ _ (by decide))
  obtain ⟨_, hexpires, hfree⟩ := hlocked.turn true hnow hfree rfl (hother _ _ _ (by decide))
  obtain ⟨_, hcompared, hfree⟩ := hexpires.turn true hnow hfree rfl (by
    intro _ hash hhash
    obtain rfl := Option.some.inj hhash
    rw [if_pos (by decide)]
    rintro other hne ⟨next, hcall⟩
    cases other with
    | true => exact hne rfl
    | false => cases hcall)
  obtain ⟨_, hdeleted, hfree⟩ := hcompared.turn true hnow hfree rfl (hother _ _ _ (by decide))
  obtain ⟨_, henabled', hfree⟩ := hdeleted.turn false hnow hfree rfl (hother _ _ _ (by decide))
  obtain ⟨_, hlocked', hfree⟩ := henabled'.turn false hnow hfree rfl (hother _ _ _ (by decide))
  obtain ⟨_, hexpires', hfree⟩ := hlocked'.turn false hnow hfree rfl (hother _ _ _ (by decide))
  obtain ⟨free, hlast, -⟩ := hexpires'.turn false hnow hfree rfl (by
    intro _ hash hhash
    cases hhash)
  exact ⟨free, hlast⟩

theorem verifyInTurn_single_use :
    ¬(verifyInTurn.program true = .done (.ok .done) ∧
      verifyInTurn.program false = .done (.ok .done)) ∧
    verifyInTurn.trace.countP (service.comparesWrong fun _ => bytesOf "123456") ≤ 5 := by
  obtain ⟨free, hclocked⟩ := clocked_verifyInTurn
  obtain ⟨honce, hwrong⟩ := emailOTP_single_use hasIssued_sent hclocked
  exact ⟨honce true false (by decide), hwrong⟩

end Sample

/-- Two requests read the hash, and both are accepted with the same code. -/
theorem not_forall_emailOTP_single_use :
    ¬∀ (s : Service) (start : Db) (u : Uuid) (opening latest : Nat) (code : Bool → Bytes)
      (last : s.CallPool Bool) (free : Bool → Nat), s.HasIssued start u opening →
      Pool.Clocked (serve s.lib) (fun _ _ _ => True)
        (s.startPool start fun thread => .verifyEmail2FALogin u (code thread)) opening last latest
        free →
      (∀ one other, one ≠ other →
        ¬(last.program one = .done (.ok .done) ∧ last.program other = .done (.ok .done))) ∧
      last.trace.countP (s.comparesWrong code) ≤ 5 := by
  intro hall
  have hopening : 1000 * second ≤ 1001 * second := by decide
  have hstart : Pool.Clocked (serve Sample.service.lib) (fun _ _ _ => True) Sample.verifyBoth
      (1000 * second) Sample.verifyBoth (1000 * second) (fun _ => 1000 * second) := .start
  obtain ⟨latest, free, hclocked⟩ := hstart.schedule hopening (fun _ => hopening)
    (fun _ _ _ => trivial)
    (List.replicate 4 true ++ List.replicate 8 false ++ List.replicate 4 true)
  exact (hall Sample.service Sample.sent.after Sample.alice.id (1000 * second) latest
    (fun _ => bytesOf "123456") Sample.verifyRaced free Sample.hasIssued_sent hclocked).1 true false
    (by decide) ⟨Sample.verifyRaced_accepted true, Sample.verifyRaced_accepted false⟩

end Skolva.Auth
