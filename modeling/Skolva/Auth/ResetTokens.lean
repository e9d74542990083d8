import Skolva.Auth.Calls
import Skolva.Auth.Login
import Skolva.Effect.Session

/-! # Reset tokens under concurrency

`ResetPassword` reads the flag and the hash, replaces the password and then sets the
flag; `ForgotPassword` replaces the hash and then deletes the flag. A token is used at
most once as long as a flag that is read, set or deleted still belongs to it.
-/

namespace Skolva.Auth

open Effect

/-! ## The stages of a request -/

/-- How far a request has come, with the flag and the hash it has read, or with the user
it mints a token for. -/
inductive ResetStage where
  | idle
  | looked
  | readUsed (used : Option Text)
  | readExpires (used : Option Text)
  | readHash (used hash : Option Text)
  | updated (hash : Text)
  | marked (hash : Text)
  | found (v : Uuid)
  | hashed (v : Uuid)
  | dated (v : Uuid)
  | minted
  | failed

namespace ResetStage

def after : ResetStage → (op : Op) → op.Resp → ResetStage
  | .idle, .getUserByID _, .ok _ => .looked
  | .idle, .getUserByEmail _, .ok row => .found row.id
  | .looked, .metaGet _ _, resp => .readUsed (valueOr none resp)
  | .readUsed used, .metaGet _ _, _ => .readExpires used
  | .readExpires used, .metaGet _ _, resp => .readHash used (valueOr none resp)
  | .readHash _ (some hash), .updatePassword _ _, .ok _ => .updated hash
  | .updated hash, .metaSet _ _ _, .ok _ => .marked hash
  | .found v, .metaSet _ _ _, .ok _ => .hashed v
  | .hashed v, .metaSet _ _ _, .ok _ => .dated v
  | .dated _, .metaDelete _ _, _ => .minted
  | .minted, .sendMail _, _ => .minted
  | _, _, _ => .failed

/-- The hash a request has read or works with. -/
def hash : ResetStage → Option Text
  | .readHash _ hash => hash
  | .updated hash | .marked hash => some hash
  | _ => none

/-- The request has replaced the password. -/
def HasReplaced : ResetStage → Prop
  | .updated _ | .marked _ => True
  | _ => False

/-- The request has stored its token. -/
def HasMinted : ResetStage → Prop
  | .hashed _ | .dated _ | .minted => True
  | _ => False

/-- The request has stored its token for the user and is still to delete the flag. -/
def IsMinting (u : Uuid) : ResetStage → Prop
  | .hashed v | .dated v => v = u
  | _ => False

end ResetStage

/-- The password resets of this user, and the requests for a token. -/
def ServiceCall.IsReset (u : Uuid) : ServiceCall → Prop
  | .resetPassword _ userID _ _ => userID = u
  | .forgotPassword .. => True
  | _ => False

/-- The token a `ResetPassword` is given. -/
def ServiceCall.resetToken : ServiceCall → Option Bytes
  | .resetPassword _ _ token _ => some token
  | _ => none

/-- The token a `ForgotPassword` draws. -/
def ServiceCall.drawnToken (lib : External) : ServiceCall → Option Bytes
  | .forgotPassword draw _ => some (draw.plain lib)
  | _ => none

namespace Service

variable (s : Service)

/-- One look-up, the checks, and then the writes, in this order. -/
def resetSession (u : Uuid) (request : ServiceCall) : Session Op Op.Resp ResetStage where
  first := .idle
  allowed
    | .idle, .getUserByID userID => userID = u
    | .idle, .getUserByEmail _ => True
    | .looked, .metaGet userID key => userID = u ∧ key = .resetUsed
    | .readUsed _, .metaGet userID key => userID = u ∧ key = .resetExpiresAt
    | .readExpires _, .metaGet userID key => userID = u ∧ key = .resetTokenHash
    | .readHash used (some hash), .updatePassword userID _ =>
        userID = u ∧ used ≠ some textTrue ∧
          ∃ token ∈ request.resetToken, s.lib.bcryptCompare hash token = true
    | .updated _, .metaSet userID key value =>
        userID = u ∧ key = .resetUsed ∧ value = textTrue
    | .found v, .metaSet userID key value =>
        userID = v ∧ key = .resetTokenHash ∧ request.resetToken = none ∧
          ∃ token ∈ request.drawnToken s.lib, ∃ salt, s.lib.bcryptGenerate salt token = some value
    | .hashed v, .metaSet userID key _ =>
        userID = v ∧ key = .resetExpiresAt ∧ request.resetToken = none
    | .dated v, .metaDelete userID key =>
        userID = v ∧ key = .resetUsed ∧ request.resetToken = none
    | .minted, .sendMail _ => True
    | _, _ => False
  after := ResetStage.after

variable {s} {u : Uuid}

section Follows

variable {σ α : Type} {session : Session Op Op.Resp σ} {final : σ → α → Prop} {state : σ}

theorem follows_hasExpired {text : Text} {rest : Bool → Prog α}
    (hrest : ∀ expired, (rest expired).Follows session final state) :
    (hasExpired text >>= rest).Follows session final state := by
  unfold hasExpired
  cases parseRFC3339 text with
  | none => exact hrest true
  | some instant => exact fun now => hrest _

theorem follows_forgotPassword (draw : ResetDraw) (email : String) :
    (s.forgotPassword draw email).Follows (s.resetSession u (.forgotPassword draw email))
      (fun _ _ => True) (s.resetSession u (.forgotPassword draw email)).first := by
  refine Program.follows_perform trivial ?_
  rintro (cause | row)
  · cases cause <;> exact Program.follows_pure trivial
  · change (s.forgotPasswordAfter draw row).Follows _ _ (ResetStage.found row.id)
    unfold forgotPasswordAfter
    cases hgenerate : s.lib.bcryptGenerate draw.salt (draw.plain s.lib) with
    | none => exact Program.follows_pure trivial
    | some hash =>
        refine Program.follows_readClock fun now => ?_
        refine Program.follows_perform ⟨rfl, rfl, rfl, _, rfl, draw.salt, hgenerate⟩ ?_
        rintro (cause | stored)
        · exact Program.follows_pure trivial
        · refine Program.follows_perform ⟨rfl, rfl, rfl⟩ ?_
          rintro (cause | dated)
          · exact Program.follows_pure trivial
          · refine Program.follows_perform ⟨rfl, rfl, rfl⟩ fun _ => ?_
            exact Program.follows_perform trivial fun _ => Program.follows_pure trivial

theorem follows_completeReset {salt : Nat} {token newPassword : Bytes} {used : Option Text}
    {hash : Text} (hunused : used ≠ some textTrue)
    (hcompare : s.lib.bcryptCompare hash token = true) :
    (s.completeReset salt u newPassword).Follows
      (s.resetSession u (.resetPassword salt u token newPassword)) (fun _ _ => True)
      (.readHash used (some hash)) := by
  unfold completeReset
  cases hashPassword s.lib salt newPassword with
  | error err => exact Program.follows_pure trivial
  | ok passwordHash =>
      refine Program.follows_perform ⟨rfl, hunused, token, rfl, hcompare⟩ ?_
      rintro (cause | written)
      · exact Program.follows_pure trivial
      · refine Program.follows_perform ⟨rfl, rfl, rfl⟩ ?_
        rintro (cause | marked)
        · exact Program.follows_pure trivial
        · exact Program.follows_pure trivial

theorem follows_resetPassword (salt : Nat) (token newPassword : Bytes) :
    (s.resetPassword salt u token newPassword).Follows
      (s.resetSession u (.resetPassword salt u token newPassword)) (fun _ _ => True)
      (s.resetSession u (.resetPassword salt u token newPassword)).first := by
  refine Program.follows_perform rfl ?_
  rintro (cause | row)
  · exact Program.follows_pure trivial
  · change (s.resetPasswordAfter salt u token newPassword).Follows _ _ ResetStage.looked
    unfold resetPasswordAfter
    refine Program.follows_perform ⟨rfl, rfl⟩ fun used => ?_
    by_cases hused : valueOr none used = some textTrue
    · rw [if_pos hused]
      exact Program.follows_pure trivial
    · rw [if_neg hused]
      refine Program.follows_perform ⟨rfl, rfl⟩ fun expires => ?_
      cases valueOr none expires with
      | none => exact Program.follows_pure trivial
      | some expiresStr =>
          refine follows_hasExpired fun expired => ?_
          cases expired with
          | true => exact Program.follows_pure trivial
          | false =>
              rw [if_neg Bool.false_ne_true]
              refine Program.follows_perform ⟨rfl, rfl⟩ fun stored => ?_
              change Program.Follows _ _ _
                (ResetStage.readHash (valueOr none used) (valueOr none stored))
              cases valueOr none stored with
              | none => exact Program.follows_pure trivial
              | some tokenHash =>
                  dsimp only
                  by_cases hcompare : s.lib.bcryptCompare tokenHash token = true
                  · rw [if_pos hcompare]
                    exact follows_completeReset hused hcompare
                  · rw [if_neg hcompare]
                    exact Program.follows_pure trivial

/-- Every request keeps to the order of its stages. -/
theorem reset_follows_call {request : ServiceCall} (hrequest : request.IsReset u) :
    (s.call request).Follows (s.resetSession u request) (fun _ _ => True)
      (s.resetSession u request).first := by
  cases request with
  | forgotPassword draw email => exact Program.follows_map (follows_forgotPassword draw email)
  | resetPassword salt userID token newPassword =>
      obtain rfl : userID = u := hrequest
      exact Program.follows_map (follows_resetPassword salt token newPassword)
  | _ => exact hrequest.elim

end Follows

/-! ## What a call does -/

/-- What the next call of a request does to its stage and to the keys of the user. -/
inductive ResetMoves (s : Service) (u : Uuid) (request : ServiceCall)
    (keys : MetaKey → Option Text) :
    ResetStage → Op → ResetStage → (MetaKey → Option Text) → Prop where
  | look (stage : ResetStage) (hstage : stage = .looked ∨ stage = .failed) :
      ResetMoves s u request keys .idle (.getUserByID u) stage keys
  | find (email : String) (stage : ResetStage)
      (hstage : (∃ v, stage = .found v) ∨ stage = .failed) :
      ResetMoves s u request keys .idle (.getUserByEmail email) stage keys
  | readUsed :
      ResetMoves s u request keys .looked (.metaGet u .resetUsed) (.readUsed (keys .resetUsed)) keys
  | readExpires (used : Option Text) :
      ResetMoves s u request keys (.readUsed used) (.metaGet u .resetExpiresAt)
        (.readExpires used) keys
  | readHash (used : Option Text) :
      ResetMoves s u request keys (.readExpires used) (.metaGet u .resetTokenHash)
        (.readHash used (keys .resetTokenHash)) keys
  | update (used : Option Text) (hash passwordHash : Text) (token : Bytes)
      (hunused : used ≠ some textTrue) (htoken : request.resetToken = some token)
      (hcompare : s.lib.bcryptCompare hash token = true) :
      ResetMoves s u request keys (.readHash used (some hash)) (.updatePassword u passwordHash)
        (.updated hash) keys
  | mark (hash : Text) :
      ResetMoves s u request keys (.updated hash) (.metaSet u .resetUsed textTrue) (.marked hash)
        (Function.update keys .resetUsed (some textTrue))
  | mint (v : Uuid) (hash : Text) (token : Bytes) (salt : Nat) (keys' : MetaKey → Option Text)
      (hrequest : request.resetToken = none) (hdrawn : request.drawnToken s.lib = some token)
      (hgenerate : s.lib.bcryptGenerate salt token = some hash)
      (hown : v = u → keys' = Function.update keys .resetTokenHash (some hash))
      (hother : v ≠ u → keys' = keys) :
      ResetMoves s u request keys (.found v) (.metaSet v .resetTokenHash hash) (.hashed v) keys'
  | date (v : Uuid) (value : Text) (keys' : MetaKey → Option Text)
      (hrequest : request.resetToken = none)
      (hsame : ∀ key, key ≠ .resetExpiresAt → keys' key = keys key) :
      ResetMoves s u request keys (.hashed v) (.metaSet v .resetExpiresAt value) (.dated v) keys'
  | delete (v : Uuid) (keys' : MetaKey → Option Text) (hrequest : request.resetToken = none)
      (hown : v = u → keys' = Function.update keys .resetUsed none)
      (hother : v ≠ u → keys' = keys) :
      ResetMoves s u request keys (.dated v) (.metaDelete v .resetUsed) .minted keys'
  | send (message : Message) :
      ResetMoves s u request keys .minted (.sendMail message) .minted keys

theorem setMeta_keys_self (db : Db) (u : Uuid) (key : MetaKey) (value : Option Text) :
    (db.setMeta u key value).usersMeta u = Function.update (db.usersMeta u) key value :=
  Function.update_self ..

theorem setMeta_keys_other (db : Db) {u v : Uuid} (hother : v ≠ u) (key : MetaKey)
    (value : Option Text) : (db.setMeta v key value).usersMeta u = db.usersMeta u :=
  Function.update_of_ne (Ne.symm hother) ..

theorem resetMoves_of_allowed {request : ServiceCall} {stage : ResetStage} {op : Op}
    (hallowed : (s.resetSession u request).allowed stage op) (now : Nat) (db : Db) :
    ResetMoves s u request (db.usersMeta u) stage op (stage.after op (serve s.lib now op db).1)
      ((serve s.lib now op db).2.usersMeta u) := by
  cases stage with
  | idle =>
      cases op with
      | getUserByID userID =>
          obtain rfl : userID = u := hallowed
          refine .look _ ?_
          generalize (serve s.lib now (.getUserByID userID) db).1 = found
          cases found with
          | error cause => exact .inr rfl
          | ok row => exact .inl rfl
      | getUserByEmail email =>
          refine .find email _ ?_
          generalize (serve s.lib now (.getUserByEmail email) db).1 = found
          cases found with
          | error cause => exact .inr rfl
          | ok row => exact .inl ⟨row.id, rfl⟩
      | _ => exact hallowed.elim
  | looked =>
      cases op with
      | metaGet userID key =>
          obtain ⟨rfl, rfl⟩ := hallowed
          exact .readUsed
      | _ => exact hallowed.elim
  | readUsed used =>
      cases op with
      | metaGet userID key =>
          obtain ⟨rfl, rfl⟩ := hallowed
          exact .readExpires used
      | _ => exact hallowed.elim
  | readExpires used =>
      cases op with
      | metaGet userID key =>
          obtain ⟨rfl, rfl⟩ := hallowed
          exact .readHash used
      | _ => exact hallowed.elim
  | readHash used hash =>
      cases hash with
      | none => exact hallowed.elim
      | some hash =>
          cases op with
          | updatePassword userID passwordHash =>
              obtain ⟨rfl, hunused, token, htoken, hcompare⟩ := hallowed
              exact .update used hash passwordHash token hunused htoken hcompare
          | _ => exact hallowed.elim
  | updated hash =>
      cases op with
      | metaSet userID key value =>
          obtain ⟨rfl, rfl, rfl⟩ := hallowed
          have hmove : ResetMoves s userID request (db.usersMeta userID) (.updated hash)
              (.metaSet userID .resetUsed textTrue) (.marked hash) _ := .mark hash
          rwa [← setMeta_keys_self] at hmove
      | _ => exact hallowed.elim
  | found v =>
      cases op with
      | metaSet userID key value =>
          obtain ⟨rfl, rfl, hrequest, token, hdrawn, salt, hgenerate⟩ := hallowed
          refine .mint userID value token salt _ hrequest hdrawn hgenerate ?_ fun hother => ?_
          · rintro rfl
            exact setMeta_keys_self ..
          · exact setMeta_keys_other db hother ..
      | _ => exact hallowed.elim
  | hashed v =>
      cases op with
      | metaSet userID key value =>
          obtain ⟨rfl, rfl, hrequest⟩ := hallowed
          exact .date userID value _ hrequest fun key hkey => Db.setMeta_otherKey db userID u _ hkey
      | _ => exact hallowed.elim
  | dated v =>
      cases op with
      | metaDelete userID key =>
          obtain ⟨rfl, rfl, hrequest⟩ := hallowed
          refine .delete userID _ hrequest ?_ fun hother => ?_
          · rintro rfl
            exact setMeta_keys_self ..
          · exact setMeta_keys_other db hother ..
      | _ => exact hallowed.elim
  | minted =>
      cases op with
      | sendMail message => exact .send message
      | _ => exact hallowed.elim
  | marked => exact hallowed.elim
  | failed => exact hallowed.elim

end Service

/-! ## Requests against one store -/

variable (s : Service) {Thread : Type} [DecidableEq Thread]

/-- The calls before the thread has read the flag. -/
def beforeRead (u : Uuid) (thread : Thread) : List (CallEvent Thread) → List (CallEvent Thread)
  | [] => []
  | event :: earlier =>
      if event.thread = thread ∧ event.op = .metaGet u .resetUsed then earlier
      else beforeRead u thread earlier

def Op.updatesPassword (u : Uuid) : Op → Bool
  | .updatePassword userID _ => userID = u
  | _ => false

/-- How often the password has been replaced with this token. -/
def updatesWith (u : Uuid) (request : Thread → ServiceCall) (token : Bytes)
    (trace : List (CallEvent Thread)) : Nat :=
  trace.countP fun event =>
    event.op.updatesPassword u && (request event.thread).resetToken = some token

namespace Service

/-- The stage every request has come to. -/
def resetStages (u : Uuid) (request : Thread → ServiceCall) (trace : List (CallEvent Thread))
    (thread : Thread) : ResetStage :=
  (s.resetSession u (request thread)).along thread trace

/-- The stored hash is one of the token. -/
def StoredFits (keys : MetaKey → Option Text) (token : Bytes) : Prop :=
  ∃ hash ∈ keys .resetTokenHash, s.lib.bcryptCompare hash token = true

/-- No token is drawn twice, or already stored. -/
structure FreshTokens (start : Db) (u : Uuid) (request : Thread → ServiceCall) : Prop where
  distinct : ∀ one other token, (request one).drawnToken s.lib = some token →
    (request other).drawnToken s.lib = some token → one = other
  unknown : ∀ thread token, (request thread).drawnToken s.lib = some token →
    ¬s.StoredFits (start.usersMeta u) token

/-- A request uses, sets or deletes the flag only where it belongs to the token the request
acts on. -/
def ResetsInOrder (u : Uuid) (request : Thread → ServiceCall) (pool : s.CallPool Thread)
    (thread : Thread) : Op → Prop
  -- Whoever has replaced the password with this token had set the flag when it was read.
  | .updatePassword _ _ => ∀ other, (request other).resetToken = (request thread).resetToken →
      (s.resetStages u request pool.trace other).HasReplaced →
      ∃ hash, s.resetStages u request (beforeRead u thread pool.trace) other = .marked hash
  -- The token has not been replaced, or its successor is still to delete the flag.
  | .metaSet _ .resetUsed _ => ∀ hash, s.resetStages u request pool.trace thread = .updated hash →
      pool.store.usersMeta u .resetTokenHash = some hash ∨
        ∃ mint token, (s.resetStages u request pool.trace mint).IsMinting u ∧
          (request mint).drawnToken s.lib = some token ∧
          s.StoredFits (pool.store.usersMeta u) token
  -- The stored token has not been used.
  | .metaDelete userID .resetUsed => userID = u →
      pool.store.usersMeta u .resetUsed = some textTrue →
      ∀ other token, (s.resetStages u request pool.trace other).HasReplaced →
        (request other).resetToken = some token → ¬s.StoredFits (pool.store.usersMeta u) token
  | _ => True

/-- A token is used at most once, and no other token suffers from it. -/
structure ResetTokensGuarded (u : Uuid) (request : Thread → ServiceCall)
    (allowed : s.CallPool Thread → Thread → Op → Prop) (pool : s.CallPool Thread) : Prop where
  once : ∀ token, updatesWith u request token pool.trace ≤ 1
  /-- The next call of a `ResetPassword` leaves the minted token of another one usable. -/
  spared : ∀ thread op next now own, pool.program thread = .call op next →
    allowed pool thread op → (request thread).resetToken = some own →
    ∀ mint token instant, s.resetStages u request pool.trace mint = .minted →
      (request mint).drawnToken s.lib = some token → token ≠ own →
      s.LiveReset pool.store instant u token →
      s.LiveReset (serve s.lib now op pool.store).2 instant u token

/-- A hash is that of the start, or of a token that a request has stored. -/
def HasOrigin (start : Db) (u : Uuid) (request : Thread → ServiceCall)
    (stages : Thread → ResetStage) (hash : Text) : Prop :=
  hash ∈ start.usersMeta u .resetTokenHash ∨ ∃ mint token salt, (stages mint).HasMinted ∧
    (request mint).drawnToken s.lib = some token ∧ s.lib.bcryptGenerate salt token = some hash

/-- What the stages and the keys of the user have in common between the calls. -/
structure ResetKept (start : Db) (u : Uuid) (request : Thread → ServiceCall)
    (stages : Thread → ResetStage) (keys : MetaKey → Option Text) : Prop where
  stored : ∀ hash ∈ keys .resetTokenHash, s.HasOrigin start u request stages hash
  seen : ∀ thread, ∀ hash ∈ (stages thread).hash, s.HasOrigin start u request stages hash
  fits : ∀ thread, (stages thread).HasReplaced → ∃ hash ∈ (stages thread).hash,
    ∃ token ∈ (request thread).resetToken, s.lib.bcryptCompare hash token = true
  flagged : ∀ thread hash token, stages thread = .marked hash →
    (request thread).resetToken = some token → s.StoredFits keys token →
    keys .resetUsed = some textTrue

/-- The request is not going to replace the password with this token. -/
def Barred (keys : MetaKey → Option Text) (token : Bytes) : ResetStage → Prop
  | .readUsed used | .readExpires used => used = some textTrue ∨ ¬s.StoredFits keys token
  | .readHash used hash =>
      used = some textTrue ∨ ∀ stored ∈ hash, s.lib.bcryptCompare stored token ≠ true
  | _ => True

variable {s} {u : Uuid} {request : Thread → ServiceCall} {start : Db}
  {stages : Thread → ResetStage} {keys keys' : MetaKey → Option Text} {thread : Thread}
  {stage : ResetStage} {op : Op}

theorem HasOrigin.update {hash : Text} (horigin : s.HasOrigin start u request stages hash)
    (hminted : (stages thread).HasMinted → stage.HasMinted) :
    s.HasOrigin start u request (Function.update stages thread stage) hash := by
  refine horigin.imp_right ?_
  rintro ⟨mint, token, salt, hmint, hdrawn, hgenerate⟩
  refine ⟨mint, token, salt, ?_, hdrawn, hgenerate⟩
  by_cases hown : mint = thread
  · subst hown
    rw [Function.update_self]
    exact hminted hmint
  · rwa [Function.update_of_ne hown]

/-- A stage that the call has not come to is the one from before. -/
theorem stage_of_update {other : Thread} {wanted : ResetStage}
    (hupdate : Function.update stages thread stage other = wanted) (hstage : stage ≠ wanted) :
    stages other = wanted := by
  by_cases hown : other = thread
  · subst hown
    rw [Function.update_self] at hupdate
    exact absurd hupdate hstage
  · rwa [Function.update_of_ne hown] at hupdate

section Fresh

variable (hbcrypt : s.lib.IdealBcrypt) (hfresh : s.FreshTokens start u request)

include hbcrypt hfresh

omit [DecidableEq Thread] in
/-- A hash that fits a drawn token was made from it. -/
theorem minted_of_compare {hash : Text} {token : Bytes}
    (horigin : s.HasOrigin start u request stages hash)
    (hcompare : s.lib.bcryptCompare hash token = true)
    (hdrawn : (request thread).drawnToken s.lib = some token) :
    (stages thread).HasMinted ∧ ∃ salt, s.lib.bcryptGenerate salt token = some hash := by
  rcases horigin with hstart | ⟨mint, drawn, salt, hminted, hmint, hgenerate⟩
  · exact absurd ⟨hash, hstart, hcompare⟩ (hfresh.unknown thread token hdrawn)
  · obtain rfl := (hbcrypt.compare_iff salt drawn hash hgenerate token).mp hcompare
    obtain rfl := hfresh.distinct mint thread token hmint hdrawn
    exact ⟨hminted, salt, hgenerate⟩

omit [DecidableEq Thread] in
/-- Before a token is stored nobody has used it. -/
theorem not_replaced_of_unminted {token : Bytes} (hkept : s.ResetKept start u request stages keys)
    (hdrawn : (request thread).drawnToken s.lib = some token) (hunminted : ¬(stages thread).HasMinted)
    (other : Thread) (hother : (request other).resetToken = some token) :
    ¬(stages other).HasReplaced := by
  intro hreplaced
  obtain ⟨hash, hhash, own, hown, hcompare⟩ := hkept.fits other hreplaced
  obtain rfl : own = token := Option.some.inj (hown.symm.trans hother)
  exact hunminted
    (minted_of_compare hbcrypt hfresh (hkept.seen other hash hhash) hcompare hdrawn).1

end Fresh

/-- A call that leaves the stored hash alone. -/
theorem resetKept_update (hkept : s.ResetKept start u request stages keys)
    (hhash : keys' .resetTokenHash = keys .resetTokenHash)
    (hminted : (stages thread).HasMinted → stage.HasMinted)
    (hseen : ∀ hash ∈ stage.hash, hash ∈ (stages thread).hash ∨ hash ∈ keys .resetTokenHash)
    (hfits : stage.HasReplaced → ∃ hash ∈ stage.hash,
      ∃ token ∈ (request thread).resetToken, s.lib.bcryptCompare hash token = true)
    (hflagged : ∀ other hash token, Function.update stages thread stage other = .marked hash →
      (request other).resetToken = some token → s.StoredFits keys token →
      keys' .resetUsed = some textTrue) :
    s.ResetKept start u request (Function.update stages thread stage) keys' where
  stored hash hstored := (hkept.stored hash (hhash ▸ hstored)).update hminted
  seen other hash hother := by
    by_cases hown : other = thread
    · subst hown
      rw [Function.update_self] at hother
      rcases hseen hash hother with hbefore | hstored
      · exact (hkept.seen other hash hbefore).update hminted
      · exact (hkept.stored hash hstored).update hminted
    · rw [Function.update_of_ne hown] at hother
      exact (hkept.seen other hash hother).update hminted
  fits other hother := by
    by_cases hown : other = thread
    · subst hown
      rw [Function.update_self] at hother ⊢
      exact hfits hother
    · rw [Function.update_of_ne hown] at hother ⊢
      exact hkept.fits other hother
  flagged other hash token hmarked hother hstored := by
    refine hflagged other hash token hmarked hother ?_
    unfold StoredFits at hstored ⊢
    rwa [hhash] at hstored

/-- A call that leaves the flag alone as well, and comes to a stage without a hash. -/
theorem resetKept_quiet (hkept : s.ResetKept start u request stages keys)
    (hhash : keys' .resetTokenHash = keys .resetTokenHash)
    (hused : keys' .resetUsed = keys .resetUsed)
    (hminted : (stages thread).HasMinted → stage.HasMinted)
    (hseen : ∀ hash ∈ stage.hash, hash ∈ keys .resetTokenHash)
    (hreplaced : ¬stage.HasReplaced) :
    s.ResetKept start u request (Function.update stages thread stage) keys' := by
  refine resetKept_update hkept hhash hminted (fun hash hstage => .inr (hseen hash hstage))
    (fun hstage => absurd hstage hreplaced) ?_
  intro other hash token hmarked hother hfits
  have hbefore : stages other = .marked hash := by
    refine stage_of_update hmarked ?_
    rintro rfl
    exact hreplaced trivial
  exact hused.trans (hkept.flagged other hash token hbefore hother hfits)

/-- A new token comes with a new hash, which fits no other one. -/
theorem resetKept_mint (hbcrypt : s.lib.IdealBcrypt) (hfresh : s.FreshTokens start u request)
    (hkept : s.ResetKept start u request stages keys) {hash : Text} {token : Bytes} {salt : Nat}
    (hdrawn : (request thread).drawnToken s.lib = some token)
    (hgenerate : s.lib.bcryptGenerate salt token = some hash)
    (hunminted : ¬(stages thread).HasMinted) :
    s.ResetKept start u request (Function.update stages thread (.hashed u))
      (Function.update keys .resetTokenHash (some hash)) := by
  have hminted : (stages thread).HasMinted → (ResetStage.hashed u).HasMinted := fun _ => trivial
  have hcurrent : ∀ other, (Function.update stages thread (.hashed u) other).HasReplaced →
      other ≠ thread := by
    rintro _ hreplaced rfl
    rw [Function.update_self] at hreplaced
    exact hreplaced
  refine ⟨?_, ?_, ?_, ?_⟩
  · intro stored hstored
    rw [Function.update_self] at hstored
    obtain rfl := Option.some.inj hstored
    refine .inr ⟨thread, token, salt, ?_, hdrawn, hgenerate⟩
    rw [Function.update_self]
    trivial
  · intro other seen hseen
    by_cases hown : other = thread
    · subst hown
      rw [Function.update_self] at hseen
      exact nomatch hseen
    · rw [Function.update_of_ne hown] at hseen
      exact (hkept.seen other seen hseen).update hminted
  · intro other hreplaced
    have hother := hcurrent other hreplaced
    rw [Function.update_of_ne hother] at hreplaced ⊢
    exact hkept.fits other hreplaced
  · -- Only the new token fits the new hash, and nobody has used it.
    intro other seen given hmarked hgiven ⟨stored, hstored, hcompare⟩
    rw [Function.update_self] at hstored
    obtain rfl := Option.some.inj hstored
    obtain rfl := (hbcrypt.compare_iff salt token _ hgenerate given).mp hcompare
    have hreplaced : (Function.update stages thread (.hashed u) other).HasReplaced := by
      rw [hmarked]
      trivial
    have hother := hcurrent other hreplaced
    rw [Function.update_of_ne hother] at hreplaced
    exact absurd hreplaced
      (not_replaced_of_unminted hbcrypt hfresh hkept hdrawn hunminted other hgiven)

/-- Storing a token is not undone, and neither is replacing the password. -/
theorem ResetMoves.hasMinted {given : ServiceCall} {before : ResetStage}
    (hmove : ResetMoves s u given keys before op stage keys') (hminted : before.HasMinted) :
    stage.HasMinted := by
  cases hmove with
  | date => trivial
  | delete => trivial
  | send => trivial
  | _ => exact hminted.elim

theorem ResetMoves.hasReplaced {given : ServiceCall} {before : ResetStage}
    (hmove : ResetMoves s u given keys before op stage keys') (hreplaced : before.HasReplaced) :
    stage.HasReplaced := by
  cases hmove with
  | mark => trivial
  | _ => exact hreplaced.elim

theorem resetKept_moves (hbcrypt : s.lib.IdealBcrypt) (hfresh : s.FreshTokens start u request)
    (hkept : s.ResetKept start u request stages keys)
    (hmove : ResetMoves s u (request thread) keys (stages thread) op stage keys')
    (hdelete : op = .metaDelete u .resetUsed → keys .resetUsed = some textTrue →
      ∀ other token, (stages other).HasReplaced → (request other).resetToken = some token →
        ¬s.StoredFits keys token) :
    s.ResetKept start u request (Function.update stages thread stage) keys' := by
  have hminted := hmove.hasMinted
  generalize hbefore : stages thread = before at hmove
  cases hmove with
  | look stage hstage =>
      rcases hstage with rfl | rfl
      · exact resetKept_quiet hkept rfl rfl hminted nofun id
      · exact resetKept_quiet hkept rfl rfl hminted nofun id
  | find email stage hstage =>
      rcases hstage with ⟨v, rfl⟩ | rfl
      · exact resetKept_quiet hkept rfl rfl hminted nofun id
      · exact resetKept_quiet hkept rfl rfl hminted nofun id
  | readUsed => exact resetKept_quiet hkept rfl rfl hminted nofun id
  | readExpires used => exact resetKept_quiet hkept rfl rfl hminted nofun id
  | readHash used =>
      exact resetKept_quiet hkept rfl rfl hminted (fun _ hread => hread) id
  | update used hash passwordHash token hunused htoken hcompare =>
      refine resetKept_update hkept rfl hminted ?_ ?_ ?_
      · intro seen hseen
        rw [hbefore]
        exact .inl hseen
      · exact fun _ => ⟨hash, rfl, token, htoken, hcompare⟩
      · intro other seen given hmarked hgiven hfits
        have hmarkedBefore : stages other = .marked seen := stage_of_update hmarked nofun
        exact hkept.flagged other seen given hmarkedBefore hgiven hfits
  | mark hash =>
      refine resetKept_update hkept (Function.update_of_ne (by decide) ..) hminted ?_ ?_ ?_
      · intro seen hseen
        rw [hbefore]
        exact .inl hseen
      · intro _
        have hfits := hkept.fits thread
        rw [hbefore] at hfits
        exact hfits trivial
      · exact fun _ _ _ _ _ _ => Function.update_self ..
  | mint v hash token salt keys' hrequest hdrawn hgenerate hown hother =>
      have hunminted : ¬(stages thread).HasMinted := by
        rw [hbefore]
        exact id
      by_cases hv : v = u
      · rw [hown hv, hv]
        exact resetKept_mint hbcrypt hfresh hkept hdrawn hgenerate hunminted
      · rw [hother hv]
        exact resetKept_quiet hkept rfl rfl hminted nofun id
  | date v value keys' hrequest hsame =>
      exact resetKept_quiet hkept (hsame _ (by decide)) (hsame _ (by decide)) hminted nofun id
  | delete v keys' hrequest hown hother =>
      by_cases hv : v = u
      · subst hv
        rw [hown rfl]
        refine resetKept_update hkept (Function.update_of_ne (by decide) ..) hminted nofun
          nofun ?_
        intro other hash token hmarked hgiven hfits
        have hmarkedBefore : stages other = .marked hash := stage_of_update hmarked nofun
        have hreplaced : (stages other).HasReplaced := by
          rw [hmarkedBefore]
          trivial
        have hflag := hkept.flagged other hash token hmarkedBefore hgiven hfits
        exact absurd hfits (hdelete rfl hflag other token hreplaced hgiven)
      · rw [hother hv]
        exact resetKept_quiet hkept rfl rfl hminted nofun id
  | send message => exact resetKept_quiet hkept rfl rfl hminted nofun id

theorem Barred.imp {token : Bytes} (hbarred : s.Barred keys token stage)
    (hfits : s.StoredFits keys' token → s.StoredFits keys token) : s.Barred keys' token stage := by
  cases stage with
  | readUsed used => exact hbarred.imp_right (mt hfits)
  | readExpires used => exact hbarred.imp_right (mt hfits)
  | readHash used hash => exact hbarred
  | _ => trivial

omit [DecidableEq Thread] in
/-- No call makes a token fit again that has been used. -/
theorem storedFits_of_moves (hbcrypt : s.lib.IdealBcrypt) (hfresh : s.FreshTokens start u request)
    (hkept : s.ResetKept start u request stages keys)
    (hmove : ResetMoves s u (request thread) keys (stages thread) op stage keys') {other : Thread}
    {token : Bytes} (hother : (request other).resetToken = some token)
    (hreplaced : (stages other).HasReplaced) (hfits : s.StoredFits keys' token) :
    s.StoredFits keys token := by
  obtain ⟨stored, hstored, hcompare⟩ := hfits
  generalize hbefore : stages thread = before at hmove
  cases hmove with
  | mint v hash drawn salt _ hrequest hdrawn hgenerate hown hsame =>
      by_cases hv : v = u
      · rw [hown hv, Function.update_self] at hstored
        obtain rfl := Option.some.inj hstored
        obtain rfl := (hbcrypt.compare_iff salt drawn _ hgenerate token).mp hcompare
        have hunminted : ¬(stages thread).HasMinted := by
          rw [hbefore]
          exact id
        exact absurd hreplaced
          (not_replaced_of_unminted hbcrypt hfresh hkept hdrawn hunminted other hother)
      · rw [hsame hv] at hstored
        exact ⟨stored, hstored, hcompare⟩
  | date v value _ hrequest hsame =>
      rw [hsame _ (by decide)] at hstored
      exact ⟨stored, hstored, hcompare⟩
  | delete v _ hrequest hown hsame =>
      by_cases hv : v = u
      · rw [hown hv, Function.update_of_ne (by decide)] at hstored
        exact ⟨stored, hstored, hcompare⟩
      · rw [hsame hv] at hstored
        exact ⟨stored, hstored, hcompare⟩
  | mark hash =>
      rw [Function.update_of_ne (by decide)] at hstored
      exact ⟨stored, hstored, hcompare⟩
  | _ => exact ⟨stored, hstored, hcompare⟩

/-! ## Runs -/

variable {allowed : s.CallPool Thread → Thread → Op → Prop} {pool last : s.CallPool Thread}

theorem resetStages_advance (thread : Thread) (now : Nat) (readings : Nat → Nat) (op : Op)
    (next : op.Resp → Prog s.Outcome) :
    s.resetStages u request (pool.advance (serve s.lib) thread now readings op next).trace =
      Function.update (s.resetStages u request pool.trace) thread
        ((s.resetStages u request pool.trace thread).after op (serve s.lib now op pool.store).1) :=
  Session.along_advance ..

section Run

variable (hrequests : ∀ thread, (request thread).IsReset u)

include hrequests

theorem reset_follows
    (hreach : Pool.Reaches (serve s.lib) allowed (s.startPool start request) last)
    (thread : Thread) :
    (last.program thread).Follows (s.resetSession u (request thread)) (fun _ _ => True)
      (s.resetStages u request last.trace thread) :=
  hreach.follows rfl (fun thread => reset_follows_call (hrequests thread)) thread

/-- The next call of a program moves its stage and the keys. -/
theorem reset_moves
    (hreach : Pool.Reaches (serve s.lib) allowed (s.startPool start request) pool)
    {next : op.Resp → Prog s.Outcome} (hprogram : pool.program thread = .call op next) (now : Nat) :
    ResetMoves s u (request thread) (pool.store.usersMeta u)
      (s.resetStages u request pool.trace thread) op
      ((s.resetStages u request pool.trace thread).after op (serve s.lib now op pool.store).1)
      ((serve s.lib now op pool.store).2.usersMeta u) := by
  have hfollows := reset_follows hrequests hreach thread
  rw [hprogram] at hfollows
  exact resetMoves_of_allowed hfollows.1 now pool.store

/-- Whoever has called `UpdatePassword` is at one of the stages after it. -/
theorem replaced_of_updated
    (hreach : Pool.Reaches (serve s.lib) allowed (s.startPool start request) last) :
    ∀ event ∈ last.trace, event.op.updatesPassword u = true →
      (s.resetStages u request last.trace event.thread).HasReplaced := by
  apply hreach.invariant (motive := fun pool => ∀ event ∈ pool.trace,
    event.op.updatesPassword u = true →
      (s.resetStages u request pool.trace event.thread).HasReplaced)
  · exact fun event hevent => absurd hevent List.not_mem_nil
  · intro pool caller now readings op next hpool hbefore hprogram _ event hevent hupdates
    have hmove := reset_moves hrequests hpool hprogram now
    rw [resetStages_advance]
    generalize (s.resetStages u request pool.trace caller).after op _ = stage at hmove ⊢
    generalize (serve s.lib now op pool.store).2.usersMeta u = keys at hmove
    rcases List.mem_cons.mp hevent with rfl | hevent
    · rw [Function.update_self]
      generalize s.resetStages u request pool.trace caller = before at hmove
      cases hmove with
      | update => trivial
      | _ => exact nomatch hupdates
    · have hreplaced := hbefore event hevent hupdates
      by_cases hcaller : event.thread = caller
      · rw [hcaller, Function.update_self]
        exact hmove.hasReplaced (hcaller ▸ hreplaced)
      · rwa [Function.update_of_ne hcaller]

end Run

section InOrder

variable (hbcrypt : s.lib.IdealBcrypt) (hfresh : s.FreshTokens start u request)
  (hrequests : ∀ thread, (request thread).IsReset u)

include hbcrypt hfresh hrequests

theorem resetKept_of_reaches
    (hreach : Pool.Reaches (serve s.lib) (s.ResetsInOrder u request) (s.startPool start request)
      last) :
    s.ResetKept start u request (s.resetStages u request last.trace) (last.store.usersMeta u) := by
  apply hreach.invariant (motive := fun pool => s.ResetKept start u request
    (s.resetStages u request pool.trace) (pool.store.usersMeta u))
  · exact ⟨fun _ hstored => .inl hstored, nofun, nofun, nofun⟩
  · intro pool caller now readings op next hpool hkept hprogram hallowed
    have hmove := reset_moves hrequests hpool hprogram now
    rw [resetStages_advance]
    refine resetKept_moves hbcrypt hfresh hkept hmove ?_
    rintro rfl
    exact hallowed rfl

/-- A request that has read the flag after the token was used is barred from using it. -/
theorem barred_of_reaches
    (hreach : Pool.Reaches (serve s.lib) (s.ResetsInOrder u request) (s.startPool start request)
      last) :
    ∀ reader other hash token, (request reader).resetToken = some token →
      (request other).resetToken = some token →
      s.resetStages u request (beforeRead u reader last.trace) other = .marked hash →
      s.resetStages u request last.trace other = .marked hash ∧
        s.Barred (last.store.usersMeta u) token (s.resetStages u request last.trace reader) := by
  apply hreach.invariant (motive := fun pool => ∀ reader other hash token,
    (request reader).resetToken = some token → (request other).resetToken = some token →
    s.resetStages u request (beforeRead u reader pool.trace) other = .marked hash →
    s.resetStages u request pool.trace other = .marked hash ∧
      s.Barred (pool.store.usersMeta u) token (s.resetStages u request pool.trace reader))
  · exact fun _ _ _ _ _ _ hmarked => nomatch hmarked
  · intro pool caller now readings op next hpool hbefore hprogram _ reader other hash token hreader
      hother hmarked
    have hkept := resetKept_of_reaches hbcrypt hfresh hrequests hpool
    have hmove := reset_moves hrequests hpool hprogram now
    rw [resetStages_advance]
    rw [Pool.advance_trace, beforeRead] at hmarked
    -- A request whose stage is `marked` makes no further call.
    have hstays : s.resetStages u request pool.trace other = .marked hash → other ≠ caller := by
      rintro hpoolMarked rfl
      rw [hpoolMarked] at hmove
      exact nomatch hmove
    by_cases hread : caller = reader ∧ op = .metaGet u .resetUsed
    · obtain ⟨rfl, rfl⟩ := hread
      rw [if_pos ⟨rfl, rfl⟩] at hmarked
      rw [Function.update_of_ne (hstays hmarked), Function.update_self]
      refine ⟨hmarked, ?_⟩
      have hflag := hkept.flagged other hash token hmarked hother
      generalize (s.resetStages u request pool.trace caller).after _ _ = stage at hmove ⊢
      generalize (serve s.lib now _ pool.store).2.usersMeta u = keys at hmove ⊢
      generalize s.resetStages u request pool.trace caller = before at hmove
      cases hmove with
      | readUsed =>
          by_cases hfits : s.StoredFits (pool.store.usersMeta u) token
          · exact .inl (hflag hfits)
          · exact .inr hfits
    · rw [if_neg hread] at hmarked
      obtain ⟨hpoolMarked, hbarred⟩ := hbefore reader other hash token hreader hother hmarked
      rw [Function.update_of_ne (hstays hpoolMarked)]
      refine ⟨hpoolMarked, ?_⟩
      by_cases hcaller : reader = caller
      · subst hcaller
        rw [Function.update_self]
        generalize (s.resetStages u request pool.trace reader).after op _ = stage at hmove ⊢
        generalize (serve s.lib now op pool.store).2.usersMeta u = keys at hmove ⊢
        generalize s.resetStages u request pool.trace reader = before at hmove hbarred
        cases hmove with
        | look stage hstage => rcases hstage with rfl | rfl <;> trivial
        | find email stage hstage => rcases hstage with ⟨v, rfl⟩ | rfl <;> trivial
        | readUsed => exact absurd ⟨rfl, rfl⟩ hread
        | readExpires used => exact hbarred
        | readHash used =>
            exact hbarred.imp_right fun hunfit stored hstored hcompare =>
              hunfit ⟨stored, hstored, hcompare⟩
        | _ => trivial
      · rw [Function.update_of_ne hcaller]
        have hreplaced : (s.resetStages u request pool.trace other).HasReplaced := by
          rw [hpoolMarked]
          trivial
        exact hbarred.imp (storedFits_of_moves hbcrypt hfresh hkept hmove hother hreplaced)

/-- At an `UpdatePassword` nobody has used the token before. -/
theorem unused_of_update
    (hreach : Pool.Reaches (serve s.lib) (s.ResetsInOrder u request) (s.startPool start request)
      last)
    {next : op.Resp → Prog s.Outcome} (hprogram : last.program thread = .call op next)
    (hallowed : s.ResetsInOrder u request last thread op) (hupdates : op.updatesPassword u = true)
    (other : Thread) (hother : (request other).resetToken = (request thread).resetToken) :
    ¬(s.resetStages u request last.trace other).HasReplaced := by
  intro hreplaced
  have hmove := reset_moves hrequests hreach hprogram 0
  have hbarred := barred_of_reaches hbcrypt hfresh hrequests hreach thread other
  generalize (s.resetStages u request last.trace thread).after op _ = stage at hmove
  generalize (serve s.lib 0 op last.store).2.usersMeta u = keys at hmove
  generalize s.resetStages u request last.trace thread = before at hmove hbarred
  cases hmove with
  | update used hash passwordHash token hunused htoken hcompare =>
      -- The other request had set the flag before this one has read it.
      obtain ⟨seen, hmarked⟩ := hallowed other hother hreplaced
      rcases (hbarred seen token htoken (hother.trans htoken) hmarked).2 with hused | hunfit
      · exact hunused hused
      · exact hunfit hash rfl hcompare
  | _ => exact nomatch hupdates

theorem updatesWith_le_one
    (hreach : Pool.Reaches (serve s.lib) (s.ResetsInOrder u request) (s.startPool start request)
      last)
    (token : Bytes) : updatesWith u request token last.trace ≤ 1 := by
  apply hreach.invariant (motive := fun pool => updatesWith u request token pool.trace ≤ 1)
  · exact Nat.zero_le 1
  · intro pool caller now readings op next hpool hbefore hprogram hallowed
    unfold updatesWith at hbefore ⊢
    rw [Pool.advance_trace, List.countP_cons]
    split
    next hcounted =>
        simp only [Bool.and_eq_true, decide_eq_true_eq] at hcounted
        obtain ⟨hupdates, hcaller⟩ := hcounted
        have hnone : pool.trace.countP (fun event => event.op.updatesPassword u &&
            (request event.thread).resetToken = some token) = 0 := by
          rw [List.countP_eq_zero]
          intro event hevent hmatches
          simp only [Bool.and_eq_true, decide_eq_true_eq] at hmatches
          exact unused_of_update hbcrypt hfresh hrequests hpool hprogram hallowed hupdates
            event.thread (hmatches.2.trans hcaller.symm)
            (replaced_of_updated hrequests hpool event hevent hmatches.1)
        rw [hnone]
    next => exact hbefore

/-- The calls of a `ResetPassword` leave the minted tokens of others usable. -/
theorem liveReset_of_other
    (hreach : Pool.Reaches (serve s.lib) (s.ResetsInOrder u request) (s.startPool start request)
      last)
    {next : op.Resp → Prog s.Outcome} {now instant : Nat} {own token : Bytes} {mint : Thread}
    (hprogram : last.program thread = .call op next)
    (hallowed : s.ResetsInOrder u request last thread op)
    (hown : (request thread).resetToken = some own)
    (hminted : s.resetStages u request last.trace mint = .minted)
    (hdrawn : (request mint).drawnToken s.lib = some token) (hother : token ≠ own)
    (hlive : s.LiveReset last.store instant u token) :
    s.LiveReset (serve s.lib now op last.store).2 instant u token := by
  have hkept := resetKept_of_reaches hbcrypt hfresh hrequests hreach
  have hmove := reset_moves hrequests hreach hprogram now
  have hreplaced := hkept.fits thread
  unfold LiveReset at hlive ⊢
  generalize (s.resetStages u request last.trace thread).after op _ = stage at hmove
  generalize (serve s.lib now op last.store).2.usersMeta u = keys at hmove ⊢
  generalize hbefore : s.resetStages u request last.trace thread = before at hmove hreplaced
  cases hmove with
  | mint v hash drawn salt _ hrequest => exact nomatch hrequest.symm.trans hown
  | date v value _ hrequest => exact nomatch hrequest.symm.trans hown
  | delete v _ hrequest => exact nomatch hrequest.symm.trans hown
  | mark hash =>
      -- The stored hash is that of the other token, and neither its own nor a newer one.
      obtain ⟨-, -, stored, hstored, hcompare⟩ := hlive
      obtain ⟨-, salt, hgenerate⟩ :=
        minted_of_compare hbcrypt hfresh (hkept.stored stored hstored) hcompare hdrawn
      have hfits := hbcrypt.compare_iff salt token stored hgenerate
      exfalso
      rcases hallowed hash hbefore with
        hsame | ⟨newer, drawn, hnewer, hnewDrawn, current, hcurrent, hnewFits⟩
      · obtain rfl : stored = hash := Option.some.inj (hstored.symm.trans hsame)
        obtain ⟨_, hhash, given, hgiven, hgivenFits⟩ := hreplaced trivial
        obtain rfl := Option.some.inj hhash
        obtain rfl : given = own := Option.some.inj (hgiven.symm.trans hown)
        exact hother ((hfits given).mp hgivenFits).symm
      · obtain rfl : stored = current := Option.some.inj (hstored.symm.trans hcurrent)
        obtain rfl := (hfits drawn).mp hnewFits
        obtain rfl := hfresh.distinct newer mint drawn hnewDrawn hdrawn
        rw [hminted] at hnewer
        exact hnewer
  | _ => exact hlive

/-- If no request acts on the flag of another token, every token is used at most once, and
completing a reset leaves newer tokens usable. -/
theorem resetTokens_guarded
    (hreach : Pool.Reaches (serve s.lib) (s.ResetsInOrder u request) (s.startPool start request)
      last) :
    s.ResetTokensGuarded u request (s.ResetsInOrder u request) last where
  once token := updatesWith_le_one hbcrypt hfresh hrequests hreach token
  spared _ _ _ _ _ hprogram hallowed hown _ _ _ hminted hdrawn hother hlive :=
    liveReset_of_other hbcrypt hfresh hrequests hreach hprogram hallowed hown hminted hdrawn
      hother hlive

end InOrder

end Service

namespace Sample

/-- Alice asks for a token, and two requests reset her password with it. -/
def resetRequests : Option Bool → ServiceCall
  | none => .forgotPassword resetDraw alice.email
  | some _ => .resetPassword 1 alice.id (resetDraw.plain service.lib) newPassword

def resetPool : service.CallPool (Option Bool) := service.startPool db resetRequests

theorem isReset_resetRequests (thread : Option Bool) : (resetRequests thread).IsReset alice.id := by
  cases thread with
  | none => trivial
  | some second => rfl

theorem freshTokens_resetRequests : service.FreshTokens db alice.id resetRequests where
  distinct one other token hone hother := by
    cases one with
    | none =>
        cases other with
        | none => rfl
        | some second => exact nomatch hother
    | some second => exact nomatch hone
  unknown thread token _ hstored := by
    obtain ⟨hash, hnone, -⟩ := hstored
    exact nomatch hnone

/-- The token has been mailed. -/
def tokenMailed : service.CallPool (Option Bool) :=
  resetPool.schedule (serve service.lib) [(none, 0), (none, 1), (none, 2), (none, 3), (none, 4)]

/-- One request has used it, and the other one has read the flag afterwards. -/
def tokenUsed : service.CallPool (Option Bool) :=
  tokenMailed.schedule (serve service.lib)
    [(some false, 5), (some false, 6), (some false, 7), (some false, 8), (some false, 9),
      (some false, 10), (some true, 11), (some true, 12)]

theorem reaches_tokenMailed :
    Pool.Reaches (serve service.lib) (service.ResetsInOrder alice.id resetRequests) resetPool
      tokenMailed := by
  have hstart : Pool.Reaches (serve service.lib) (service.ResetsInOrder alice.id resetRequests)
      resetPool resetPool := .refl
  have hdated := ((hstart.turn none 0 rfl trivial).turn none 1 rfl trivial).turn none 2 rfl trivial
  exact (hdated.turn none 3 rfl fun _ hused => nomatch hused).turn none 4 rfl trivial

theorem reaches_tokenUsed :
    Pool.Reaches (serve service.lib) (service.ResetsInOrder alice.id resetRequests) resetPool
      tokenUsed := by
  have hread := (((reaches_tokenMailed.turn (some false) 5 rfl trivial).turn (some false) 6 rfl
    trivial).turn (some false) 7 rfl trivial).turn (some false) 8 rfl trivial
  have hupdated := hread.turn (some false) 9 rfl fun other _ hreplaced => by
    match other with
    | none => exact hreplaced.elim
    | some false => exact hreplaced.elim
    | some true => exact hreplaced.elim
  have hmarked := hupdated.turn (some false) 10 rfl fun hash hstage =>
    .inl (congrArg ResetStage.hash hstage)
  exact (hmarked.turn (some true) 11 rfl trivial).turn (some true) 12 rfl trivial

theorem resetTokens_guarded_tokenUsed :
    service.ResetTokensGuarded alice.id resetRequests
      (service.ResetsInOrder alice.id resetRequests) tokenUsed := by
  have hbcrypt : service.lib.IdealBcrypt := Reference.external_idealBcrypt
  exact Service.resetTokens_guarded hbcrypt freshTokens_resetRequests isReset_resetRequests
    reaches_tokenUsed

/-- Both requests check the token before one of them replaces the password. -/
def tokenUsedTwice : service.CallPool (Option Bool) :=
  tokenMailed.schedule (serve service.lib)
    [(some false, 5), (some false, 6), (some false, 7), (some false, 8), (some true, 9),
      (some true, 10), (some true, 11), (some true, 12), (some false, 13), (some true, 14)]

theorem updatesWith_tokenUsedTwice :
    updatesWith alice.id resetRequests (resetDraw.plain service.lib) tokenUsedTwice.trace = 2 := rfl

end Sample

/-- Two requests replace the password with one token. -/
theorem not_forall_resetTokens_guarded :
    ¬∀ (s : Service) (start : Db) (u : Uuid) (request : Option Bool → ServiceCall)
      (last : s.CallPool (Option Bool)), s.lib.IdealBcrypt → s.FreshTokens start u request →
      (∀ thread, (request thread).IsReset u) →
      Pool.Reaches (serve s.lib) (fun _ _ _ => True) (s.startPool start request) last →
      s.ResetTokensGuarded u request (fun _ _ _ => True) last := by
  intro hguarded
  have hbcrypt : Sample.service.lib.IdealBcrypt := Reference.external_idealBcrypt
  have hmailed : Pool.Reaches (serve Sample.service.lib) (fun _ _ _ => True) Sample.resetPool
      Sample.tokenMailed :=
    Pool.Reaches.schedule .refl (fun _ _ _ => trivial) _
  have hreach : Pool.Reaches (serve Sample.service.lib) (fun _ _ _ => True) Sample.resetPool
      Sample.tokenUsedTwice :=
    hmailed.schedule (fun _ _ _ => trivial) _
  have hlast := hguarded Sample.service Sample.db Sample.alice.id Sample.resetRequests
    Sample.tokenUsedTwice hbcrypt Sample.freshTokens_resetRequests Sample.isReset_resetRequests
    hreach
  have honce := hlast.once (Sample.resetDraw.plain Sample.service.lib)
  rw [Sample.updatesWith_tokenUsedTwice] at honce
  exact absurd honce (by decide)

end Skolva.Auth
