import Skolva.Auth.TotpSession
import Skolva.Auth.Login
import Mathlib.Data.List.Perm.Basic

/-! # Recovery codes under concurrency

Recovery codes are taken out of the list of the row, and the whole row is written
back. A code stays spent as long as no request writes back a list that another one
has changed since it was read.
-/

namespace Skolva.Auth

open Effect

variable (s : Service)

def ServiceCall.TakesCode (u : Uuid) : ServiceCall → Prop
  | .consumeRecoveryCode userID _ | .verify2FA userID _ => userID = u
  | _ => False

def Service.IsHashOf (code : Bytes) (hash : Text) : Prop :=
  ∃ salt, s.lib.bcryptGenerate salt code = some hash

/-- TOTP is active for the user, with these recovery codes. -/
def Service.Issued (db : Db) (u : Uuid) (codes : List Bytes) : Prop :=
  codes.Nodup ∧ ∃ row ∈ db.totp u, row.isEnabled = true ∧
    List.Forall₂ s.IsHashOf codes row.recoveryCodesHash

/-! ## How codes are issued -/

variable {s}

theorem isHashOf_of_generate {draw : RecoveryDraw} {issued : Bytes × Text}
    (hgenerate : generateRecoveryCode s.lib draw = .ok issued) : s.IsHashOf issued.1 issued.2 := by
  unfold generateRecoveryCode at hgenerate
  dsimp only at hgenerate
  cases hhash : s.lib.bcryptGenerate draw.salt ((base32Encode draw.buf).take recoveryCodeLen) with
  | none =>
      rw [hhash] at hgenerate
      exact nomatch hgenerate
  | some hash =>
      rw [hhash] at hgenerate
      obtain rfl := Except.ok.inj hgenerate
      exact ⟨draw.salt, hhash⟩

theorem isHashOf_of_mapM {draws : List RecoveryDraw} {issued : List (Bytes × Text)}
    (hmap : draws.mapM (generateRecoveryCode s.lib) = .ok issued) :
    issued.length = draws.length ∧
      List.Forall₂ s.IsHashOf (issued.map Prod.fst) (issued.map Prod.snd) := by
  induction draws generalizing issued with
  | nil =>
      obtain rfl : [] = issued := Except.ok.inj hmap
      exact ⟨rfl, .nil⟩
  | cons draw draws ih =>
      rw [List.mapM_cons] at hmap
      cases hhead : generateRecoveryCode s.lib draw with
      | error err =>
          rw [hhead] at hmap
          exact nomatch hmap
      | ok code =>
          cases htail : draws.mapM (generateRecoveryCode s.lib) with
          | error err =>
              rw [hhead, htail] at hmap
              exact nomatch hmap
          | ok rest =>
              rw [hhead, htail] at hmap
              obtain rfl : code :: rest = issued := Except.ok.inj hmap
              obtain ⟨hlength, hcodes⟩ := ih htail
              exact ⟨congrArg Nat.succ hlength, .cons (isHashOf_of_generate hhead) hcodes⟩

/-- The codes of a new factor are those of its hashes. -/
theorem isHashOf_of_newFactor {draw : SetupDraw} {email url : String} {codes : List Bytes}
    {params : UpsertTOTPSecretParams}
    (hnew : s.newFactor draw email = .ok (url, codes, params)) :
    codes.length = recoveryCodeCount ∧
      List.Forall₂ s.IsHashOf codes params.recoveryCodesHash := by
  unfold Service.newFactor at hnew
  split at hnew
  · cases hnew
  · split at hnew
    · cases hnew
    · split at hnew
      · cases hnew
      next issued hissued =>
        cases hnew
        obtain ⟨hlength, hcodes⟩ := isHashOf_of_mapM hissued
        rw [List.length_map, hlength, List.length_ofFn]
        exact ⟨rfl, hcodes⟩

/-- The codes that `Setup2FA` returns are those of the hashes it stores. -/
theorem stored_of_setup2FA {draw : SetupDraw} {u : Uuid} {now : Nat} {db after : Db} {url : String}
    {codes : List Bytes}
    (hsetup : (s.setup2FA draw u).run (serve s.lib) now db = (.ok (url, codes), after)) :
    codes.length = recoveryCodeCount ∧
      ∃ row ∈ after.totp u, List.Forall₂ s.IsHashOf codes row.recoveryCodesHash := by
  rcases s.run_setup2FA now db u draw with ⟨err, hrun⟩ |
    ⟨-, user, url', codes', params, -, hnew, hrun⟩
  · rw [hrun] at hsetup
    cases hsetup
  · rw [hrun] at hsetup
    cases hsetup
    obtain ⟨hlength, hcodes⟩ := isHashOf_of_newFactor hnew
    exact ⟨hlength, _, Db.setTotp_self .., hcodes⟩

theorem stored_of_confirm2FA {code : Bytes} {u : Uuid} {now : Nat} {db after : Db}
    (hconfirm : (s.confirm2FA u code).run (serve s.lib) now db = (.ok (), after)) :
    ∃ row ∈ db.totp u, ∃ confirmed ∈ after.totp u,
      confirmed.isEnabled = true ∧ confirmed.recoveryCodesHash = row.recoveryCodesHash := by
  unfold Service.confirm2FA at hconfirm
  rw [Program.run_bind, Program.run_perform] at hconfirm
  unfold Service.confirm2FAAfter at hconfirm
  cases hrow : db.totp u with
  | none =>
      have hread : (serve s.lib now (.getTOTPSecret u) db).1 = .error .noRows := congrArg one hrow
      rw [hread] at hconfirm
      exact nomatch hconfirm
  | some row =>
      have hread : (serve s.lib now (.getTOTPSecret u) db).1 = .ok row := congrArg one hrow
      rw [hread] at hconfirm
      dsimp only at hconfirm
      split at hconfirm
      · exact nomatch hconfirm
      · split at hconfirm
        · exact nomatch hconfirm
        · rw [Program.run_bind] at hconfirm
          split at hconfirm
          · obtain ⟨-, rfl⟩ := Prod.mk.inj hconfirm
            exact ⟨row, rfl, _, Db.setTotp_self .., rfl, rfl⟩
          · exact nomatch hconfirm

/-- Ten codes that `Setup2FA` has returned and `Confirm2FA` has confirmed are issued. -/
theorem issued_of_confirmed {draw : SetupDraw} {u : Uuid} {setupAt confirmAt : Nat}
    {db between after : Db} {url : String} {codes : List Bytes} {code : Bytes}
    (hsetup : (s.setup2FA draw u).run (serve s.lib) setupAt db = (.ok (url, codes), between))
    (hconfirm : (s.confirm2FA u code).run (serve s.lib) confirmAt between = (.ok (), after))
    (hnodup : codes.Nodup) :
    codes.length = recoveryCodeCount ∧ s.Issued after u codes := by
  obtain ⟨hlength, row, hrow, hcodes⟩ := stored_of_setup2FA hsetup
  obtain ⟨row', hrow', confirmed, hconfirmed, henabled, hsame⟩ := stored_of_confirm2FA hconfirm
  obtain rfl : row = row' := Option.some.inj (hrow.symm.trans hrow')
  exact ⟨hlength, hnodup, confirmed, hconfirmed, henabled, hsame ▸ hcodes⟩

variable (s)

section Pool

variable {Thread : Type} [DecidableEq Thread]

/-- The list that is stored when a request writes is the one it has read. -/
def Service.KeepsCodes (u : Uuid) (request : Thread → ServiceCall) (pool : s.CallPool Thread)
    (thread : Thread) (op : Op) : Prop :=
  ∀ params current copy, op = .upsertTOTPSecret u params → pool.store.totp u = some current →
    (s.sessions u request pool thread).read = some (.ok copy) →
    current.recoveryCodesHash = copy.recoveryCodesHash

/-- The codes that are left, with the row and the sessions of the requests. -/
structure Service.CodesLeft (u : Uuid) (request : Thread → ServiceCall)
    (sessions : Thread → TotpSession) (row : Option UserTotpSecret) (left : List Bytes) : Prop where
  stored : ∃ current, row = some current ∧ List.Forall₂ s.IsHashOf left current.recoveryCodesHash
  nodup : left.Nodup
  spent : ∀ thread code, request thread = .consumeRecoveryCode u code →
    (sessions thread).wrote ≠ none → code ∉ left
  once : ∀ one other code, request one = .consumeRecoveryCode u code →
    request other = .consumeRecoveryCode u code → (sessions one).wrote ≠ none →
    (sessions other).wrote ≠ none → one = other

variable {s}

theorem forall₂_eraseIdx {α β : Type} {rel : α → β → Prop} {left : List α} {right : List β}
    (hrel : List.Forall₂ rel left right) (index : Nat) :
    List.Forall₂ rel (left.eraseIdx index) (right.eraseIdx index) := by
  induction hrel generalizing index with
  | nil => simp
  | cons hhead htail ih =>
      cases index with
      | zero => exact htail
      | succ index => exact .cons hhead (ih index)

/-- The code that fits a stored hash is the one at its place. -/
theorem getElem?_of_compare (hbcrypt : s.lib.IdealBcrypt) {codes : List Bytes} {hashes : List Text}
    (hcodes : List.Forall₂ s.IsHashOf codes hashes) {found : Nat} {hash : Text} {code : Bytes}
    (hhash : hashes[found]? = some hash) (hcompare : s.lib.bcryptCompare hash code = true) :
    codes[found]? = some code := by
  induction hcodes generalizing found with
  | nil => simp at hhash
  | cons hhead _ ih =>
      cases found with
      | zero =>
          obtain ⟨salt, hgenerate⟩ := hhead
          obtain rfl := Option.some.inj hhash
          rw [(hbcrypt.compare_iff salt _ _ hgenerate code).mp hcompare]
          rfl
      | succ found => exact ih hhash

theorem not_mem_eraseIdx {α : Type} {codes : List α} (hnodup : codes.Nodup) {found : Nat} {code : α}
    (hfound : codes[found]? = some code) : code ∉ codes.eraseIdx found := by
  obtain ⟨hlength, rfl⟩ := List.getElem?_eq_some_iff.mp hfound
  have hcons := (List.getElem_cons_eraseIdx_perm hlength).nodup_iff.mpr hnodup
  exact (List.nodup_cons.mp hcons).1

variable {u : Uuid} {request : Thread → ServiceCall} {sessions : Thread → TotpSession}
  {row : Option UserTotpSecret} {left : List Bytes} {thread : Thread} {session : TotpSession}

/-- A request that writes the list it finds spends no code. -/
theorem codesLeft_update (hleft : s.CodesLeft u request sessions row left)
    {row' : Option UserTotpSecret}
    (hrow : row'.map UserTotpSecret.recoveryCodesHash = row.map UserTotpSecret.recoveryCodesHash)
    (hwrote : session.wrote = (sessions thread).wrote ∨
      ∀ code, request thread ≠ .consumeRecoveryCode u code) :
    s.CodesLeft u request (Function.update sessions thread session) row' left := by
  have hsame : ∀ other code, request other = .consumeRecoveryCode u code →
      (Function.update sessions thread session other).wrote = (sessions other).wrote := by
    intro other code hother
    by_cases hown : other = thread
    · subst hown
      rw [Function.update_self]
      exact hwrote.resolve_right fun hnone => hnone code hother
    · rw [Function.update_of_ne hown]
  refine ⟨?_, hleft.nodup, ?_, ?_⟩
  · obtain ⟨current, rfl, hcodes⟩ := hleft.stored
    obtain ⟨current', rfl, hhashes⟩ := Option.map_eq_some_iff.mp hrow
    exact ⟨current', rfl, hhashes ▸ hcodes⟩
  · intro other code hother hwritten
    rw [hsame other code hother] at hwritten
    exact hleft.spent other code hother hwritten
  · intro one other code hone hother hwrittenOne hwrittenOther
    rw [hsame one code hone] at hwrittenOne
    rw [hsame other code hother] at hwrittenOther
    exact hleft.once one other code hone hother hwrittenOne hwrittenOther

/-- A request that takes its code out of the list spends it. -/
theorem codesLeft_consume (hleft : s.CodesLeft u request sessions row left)
    {code : Bytes} (hrequest : request thread = .consumeRecoveryCode u code)
    {found : Nat} (hfound : left[found]? = some code)
    {current current' : UserTotpSecret} (hrow : row = some current)
    (hcodes : current'.recoveryCodesHash = current.recoveryCodesHash.eraseIdx found) :
    s.CodesLeft u request (Function.update sessions thread session) (some current')
      (left.eraseIdx found) := by
  -- The code is still in the list, so nobody has spent it.
  have hunspent : ∀ other, request other = .consumeRecoveryCode u code →
      (sessions other).wrote = none := by
    intro other hother
    by_contra hwritten
    exact hleft.spent other code hother hwritten (List.mem_of_getElem? hfound)
  have hown : ∀ other, request other = .consumeRecoveryCode u code →
      (Function.update sessions thread session other).wrote ≠ none → other = thread := by
    intro other hother hwritten
    by_contra hne
    rw [Function.update_of_ne hne] at hwritten
    exact hwritten (hunspent other hother)
  refine ⟨?_, hleft.nodup.eraseIdx found, ?_, ?_⟩
  · obtain ⟨stored, hstored, hhashes⟩ := hleft.stored
    obtain rfl := Option.some.inj (hstored.symm.trans hrow)
    exact ⟨current', rfl, hcodes ▸ forall₂_eraseIdx hhashes found⟩
  · intro other given hother hwritten
    by_cases hcode : given = code
    · subst hcode
      exact not_mem_eraseIdx hleft.nodup hfound
    · have hne : other ≠ thread := by
        rintro rfl
        rw [hrequest] at hother
        exact hcode (ServiceCall.consumeRecoveryCode.inj hother).2.symm
      rw [Function.update_of_ne hne] at hwritten
      exact fun hmem => hleft.spent other given hother hwritten (List.mem_of_mem_eraseIdx hmem)
  · intro one other given hone hother hwrittenOne hwrittenOther
    by_cases hcode : given = code
    · subst hcode
      rw [hown one hone hwrittenOne, hown other hother hwrittenOther]
    · have hne : ∀ taker, request taker = .consumeRecoveryCode u given → taker ≠ thread := by
        rintro _ htaker rfl
        rw [hrequest] at htaker
        exact hcode (ServiceCall.consumeRecoveryCode.inj htaker).2.symm
      rw [Function.update_of_ne (hne one hone)] at hwrittenOne
      rw [Function.update_of_ne (hne other hother)] at hwrittenOther
      exact hleft.once one other given hone hother hwrittenOne hwrittenOther

omit [DecidableEq Thread] in
/-- A verification writes back the list it has read. -/
theorem codes_of_verify {userID : Uuid} {code : Bytes} {copy : Except CallError UserTotpSecret}
    {params : UpsertTOTPSecretParams} (hwrites : s.Writes u (.verify2FA userID code) copy params) :
    ∃ row, copy = .ok row ∧ params.recoveryCodesHash = row.recoveryCodesHash := by
  cases hwrites with
  | accept _ _ row => exact ⟨row, rfl, rfl⟩
  | reject _ _ row => exact ⟨row, rfl, rfl⟩

/-- A write that finds the list its request has read spends at most that request's code. -/
theorem codesLeft_moves (hbcrypt : s.lib.IdealBcrypt)
    (hleft : s.CodesLeft u request sessions row left) (htakes : (request thread).TakesCode u)
    {op : Op} {row' : Option UserTotpSecret}
    (hmove : Service.Moves s u (request thread) (sessions thread) row op session row')
    (hkeeps : ∀ params current copy, op = .upsertTOTPSecret u params → row = some current →
      (sessions thread).read = some (.ok copy) →
      current.recoveryCodesHash = copy.recoveryCodesHash) :
    ∃ left', s.CodesLeft u request (Function.update sessions thread session) row' left' := by
  cases hmove with
  | read hfirst => exact ⟨left, codesLeft_update hleft rfl (.inl rfl)⟩
  | lookUp id draw hrequest => exact ⟨left, codesLeft_update hleft rfl (.inl rfl)⟩
  | delete code copy hrequest =>
      rw [hrequest] at htakes
      exact htakes.elim
  | write params now copy hwrote hread hwrites =>
      obtain ⟨current, rfl, hcodes⟩ := hleft.stored
      generalize hrequest : request thread = given at hwrites htakes
      cases given with
      | verify2FA userID code =>
          obtain ⟨row, rfl, hcopied⟩ := codes_of_verify hwrites
          have hsame := hkeeps _ current row rfl rfl hread
          refine ⟨left, codesLeft_update hleft (congrArg some (hcopied.trans hsame.symm)) (.inr ?_)⟩
          intro code' hconsume
          exact nomatch hrequest.symm.trans hconsume
      | consumeRecoveryCode userID code =>
          cases hwrites with
          | accept _ _ row now hchecks => exact hchecks.elim
          | reject _ _ row lock hchecks => exact hchecks.elim
          | consume _ row found hash henabled hhash hcompare =>
              have hsame := hkeeps _ current row rfl rfl hread
              have hfound : left[found]? = some code :=
                getElem?_of_compare hbcrypt hcodes (hsame ▸ hhash) hcompare
              refine ⟨left.eraseIdx found, codesLeft_consume hleft hrequest hfound rfl ?_⟩
              exact congrArg (fun hashes => hashes.eraseIdx found) hsame.symm
      | _ => exact htakes.elim

/-- If no request writes over a list that has changed since it was read, every
recovery code is accepted at most once. -/
theorem recoveryCode_accepted_once (hbcrypt : s.lib.IdealBcrypt) {start : Db} {codes : List Bytes}
    (hissued : s.Issued start u codes) (hrequests : ∀ thread, (request thread).TakesCode u)
    {last : s.CallPool Thread}
    (hreach : Pool.Reaches (serve s.lib) (s.KeepsCodes u request) (s.startPool start request) last)
    {code : Bytes} {one other : Thread} (hdistinct : one ≠ other)
    (hone : request one = .consumeRecoveryCode u code)
    (hother : request other = .consumeRecoveryCode u code) :
    ¬(last.program one = .done (.ok .done) ∧ last.program other = .done (.ok .done)) := by
  have htotp : ∀ thread, (request thread).IsTotp u := by
    intro thread
    have htakes := hrequests thread
    generalize request thread = given at htakes
    cases given with
    | verify2FA userID code => exact htakes
    | consumeRecoveryCode userID code => exact htakes
    | _ => exact htakes.elim
  have hleft : ∃ left, s.CodesLeft u request (s.sessions u request last) (last.store.totp u) left := by
    apply Service.totp_invariant htotp hreach (motive := fun sessions row =>
      ∃ left, s.CodesLeft u request sessions row left)
    · obtain ⟨hnodup, row, hrow, -, hhashes⟩ := hissued
      exact ⟨codes, ⟨row, hrow, hhashes⟩, hnodup, fun _ _ _ hwrote => absurd rfl hwrote,
        fun _ _ _ _ _ hwrote => absurd rfl hwrote⟩
    · intro pool thread op session row ⟨left, hleft⟩ hkeeps hmove
      exact codesLeft_moves hbcrypt hleft (hrequests thread) hmove hkeeps
  obtain ⟨left, hleft⟩ := hleft
  have hwrote : ∀ thread, last.program thread = .done (.ok .done) →
      (s.sessions u request last thread).wrote ≠ none := by
    intro thread hok
    have hfollows := Service.totp_follows htotp hreach thread
    rw [hok] at hfollows
    exact hfollows.wrote .done rfl
  rintro ⟨honeOk, hotherOk⟩
  exact hdistinct
    (hleft.once one other code hone hother (hwrote one honeOk) (hwrote other hotherOk))

end Pool

namespace Sample

def setupDraw : SetupDraw where
  seed := 0
  nonce := 0
  codes index := ⟨BitVec.ofNat _ (index * 2 ^ 64), index⟩

def issuedCodes : List Bytes :=
  (List.ofFn setupDraw.codes).map fun draw => (base32Encode draw.buf).take recoveryCodeLen

def dbSetup : Db := ((service.setup2FA setupDraw alice.id).run (serve service.lib) 0 db).2

def deviceCode : Bytes := Reference.totpCode (String.ofList (Reference.hexDigits 16 0)) 0

/-- Alice has set up TOTP and confirmed it. -/
def dbIssued : Db := ((service.confirm2FA alice.id deviceCode).run (serve service.lib) 0 dbSetup).2

theorem issued_dbIssued :
    issuedCodes.length = recoveryCodeCount ∧ service.Issued dbIssued alice.id issuedCodes := by
  have hsetup : ((service.setup2FA setupDraw alice.id).run (serve service.lib) 0 db).1 =
      .ok ("otpauth://totp/Skolva:alice@example.org?secret=0000000000000000", issuedCodes) := by
    decide +kernel
  have hconfirm : ((service.confirm2FA alice.id deviceCode).run (serve service.lib) 0 dbSetup).1 =
      .ok () := rfl
  have hnodup : issuedCodes.Nodup := by decide +kernel
  exact issued_of_confirmed (Prod.ext hsetup rfl) (Prod.ext hconfirm rfl) hnodup

/-- The code of sixteen A, which is the first of them. -/
def spentCode : Bytes := List.replicate 16 65

/-- Two requests with the same code. -/
def consumeTwice : service.CallPool Bool :=
  service.startPool dbIssued fun _ => .consumeRecoveryCode alice.id spentCode

def consumeTwiceRead : service.CallPool Bool := consumeTwice.next (serve service.lib) true 1

def consumeTwiceWritten : service.CallPool Bool := consumeTwiceRead.next (serve service.lib) true 2

/-- The second request starts after the first one is done. -/
def consumeTwiceDone : service.CallPool Bool := consumeTwiceWritten.next (serve service.lib) false 3

theorem reaches_consumeTwiceDone :
    Pool.Reaches (serve service.lib)
      (service.KeepsCodes alice.id fun _ => .consumeRecoveryCode alice.id spentCode)
      consumeTwice consumeTwiceDone := by
  have hread : ∀ (pool : service.CallPool Bool) (thread : Bool) (op : Op) (rest resume),
      pool.program thread = .call (.getTOTPSecret alice.id) resume →
      pool.program thread = .call op rest →
      service.KeepsCodes alice.id (fun _ => .consumeRecoveryCode alice.id spentCode) pool thread
        op := by
    intro pool thread op rest resume hnext hprogram params current copy hwrite
    subst hwrite
    exact nomatch hnext.symm.trans hprogram
  have hfirst : Pool.Reaches (serve service.lib)
      (service.KeepsCodes alice.id fun _ => .consumeRecoveryCode alice.id spentCode)
      consumeTwice consumeTwiceRead :=
    Pool.Reaches.next .refl true 1 fun op rest hprogram => hread _ _ op rest _ rfl hprogram
  have hsecond : Pool.Reaches (serve service.lib)
      (service.KeepsCodes alice.id fun _ => .consumeRecoveryCode alice.id spentCode)
      consumeTwice consumeTwiceWritten := by
    refine hfirst.next true 2 fun op rest hprogram params current copy hwrite hcurrent hcopy => ?_
    have hstored : dbIssued.totp alice.id = some current := hcurrent
    have hcopied : one (dbIssued.totp alice.id) = .ok copy := Option.some.inj hcopy
    rw [hstored] at hcopied
    exact congrArg UserTotpSecret.recoveryCodesHash (Except.ok.inj hcopied)
  exact hsecond.next false 3 fun op rest hprogram => hread _ _ op rest _ rfl hprogram

theorem consumeTwiceDone_accepted_once :
    ¬(consumeTwiceDone.program true = .done (.ok .done) ∧
      consumeTwiceDone.program false = .done (.ok .done)) := by
  have hbcrypt : service.lib.IdealBcrypt := Reference.external_idealBcrypt
  have htakes : ∀ _ : Bool,
      (ServiceCall.consumeRecoveryCode alice.id spentCode).TakesCode alice.id := fun _ => rfl
  exact recoveryCode_accepted_once hbcrypt issued_dbIssued.2 htakes
    reaches_consumeTwiceDone (by decide) rfl rfl

/-- Both requests read before one of them writes. -/
def consumeTwiceRaced : service.CallPool Bool :=
  consumeTwice.schedule (serve service.lib) [(true, 1), (false, 2), (true, 3), (false, 4)]

theorem consumeTwiceRaced_accepted (thread : Bool) :
    consumeTwiceRaced.program thread = .done (.ok .done) := by
  cases thread <;> rfl

end Sample

/-- Two requests read the same list, and both are accepted with the same code. -/
theorem not_forall_recoveryCode_accepted_once :
    ¬∀ (s : Service) (start : Db) (u : Uuid) (codes : List Bytes) (request : Bool → ServiceCall)
      (last : s.CallPool Bool) (code : Bytes) (one other : Bool),
      s.lib.IdealBcrypt → codes.length = recoveryCodeCount → s.Issued start u codes →
      (∀ thread, (request thread).TakesCode u) →
      Pool.Reaches (serve s.lib) (fun _ _ _ => True) (s.startPool start request) last →
      one ≠ other → request one = .consumeRecoveryCode u code →
      request other = .consumeRecoveryCode u code →
      ¬(last.program one = .done (.ok .done) ∧ last.program other = .done (.ok .done)) := by
  intro honce
  have hreach : Pool.Reaches (serve Sample.service.lib) (fun _ _ _ => True) Sample.consumeTwice
      Sample.consumeTwiceRaced :=
    Pool.Reaches.schedule .refl (fun _ _ _ => trivial) _
  exact honce Sample.service Sample.dbIssued Sample.alice.id Sample.issuedCodes
    (fun _ => .consumeRecoveryCode Sample.alice.id Sample.spentCode) Sample.consumeTwiceRaced
    Sample.spentCode true false Reference.external_idealBcrypt Sample.issued_dbIssued.1
    Sample.issued_dbIssued.2 (fun _ => rfl) hreach (by decide) rfl rfl
    ⟨Sample.consumeTwiceRaced_accepted true, Sample.consumeTwiceRaced_accepted false⟩

end Skolva.Auth
