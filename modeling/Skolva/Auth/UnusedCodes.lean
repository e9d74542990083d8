import Skolva.Auth.TotpHistory
import Skolva.Auth.RecoveryCodes

/-! # The recovery codes that are left

In a serial run the hashes in the row of a user are those of the codes of the latest
set-up that have not been spent, in the order in which they were returned.
-/

namespace Skolva.Auth

open Effect

/-- The recovery codes that come from what a set-up draws. -/
def SetupDraw.plainCodes (draw : SetupDraw) : List Bytes :=
  (List.ofFn draw.codes).map fun code => (base32Encode code.buf).take recoveryCodeLen

/-- The unused codes of the user after a call. A set-up replaces them all, and a
recovery takes one away. -/
def Service.codesAfter {s : Service} (u : Uuid) (entry : s.CallEntry) (codes : List Bytes) :
    List Bytes :=
  match entry.request, entry.reply with
  | .setup2FA _ userID, .ok (.setup _ returned) => if userID = u then returned else codes
  | .consumeRecoveryCode userID code, .ok _ => if userID = u then codes.erase code else codes
  | _, _ => codes

/-- The unused codes after a history, from those at its start. -/
def Service.unusedCodes {s : Service} (u : Uuid) (first : List Bytes) (history : List s.CallEntry) :
    List Bytes :=
  history.foldr (Service.codesAfter u) first

variable (s : Service)

/-- The row of the user holds the hashes of these codes, one for each and in their order. -/
def Service.RecordsCodes (db : Db) (u : Uuid) (codes : List Bytes) : Prop :=
  ∀ row ∈ db.totp u, List.Forall₂ s.IsHashOf codes row.recoveryCodesHash

variable {s}

/-! ## What a set-up returns -/

theorem codes_of_mapM {draws : List RecoveryDraw} {issued : List (Bytes × Text)}
    (hmap : draws.mapM (generateRecoveryCode s.lib) = .ok issued) :
    issued.map Prod.fst = draws.map fun code => (base32Encode code.buf).take recoveryCodeLen := by
  induction draws generalizing issued with
  | nil =>
      obtain rfl : [] = issued := Except.ok.inj hmap
      rfl
  | cons draw draws ih =>
      rw [List.mapM_cons] at hmap
      cases hhead : generateRecoveryCode s.lib draw with
      | error err =>
          rw [hhead] at hmap
          cases hmap
      | ok code =>
          cases htail : draws.mapM (generateRecoveryCode s.lib) with
          | error err =>
              rw [hhead, htail] at hmap
              cases hmap
          | ok rest =>
              rw [hhead, htail] at hmap
              obtain rfl : code :: rest = issued := Except.ok.inj hmap
              have hplain : code.1 = (base32Encode draw.buf).take recoveryCodeLen := by
                unfold generateRecoveryCode at hhead
                dsimp only at hhead
                split at hhead <;> cases hhead
                rfl
              rw [List.map_cons, List.map_cons, ih htail, hplain]

/-- The codes of a new factor are the drawn ones. -/
theorem plainCodes_of_newFactor {draw : SetupDraw} {email url : String} {codes : List Bytes}
    {params : UpsertTOTPSecretParams}
    (hnew : s.newFactor draw email = .ok (url, codes, params)) : codes = draw.plainCodes := by
  unfold Service.newFactor at hnew
  split at hnew
  · cases hnew
  · split at hnew
    · cases hnew
    · split at hnew
      · cases hnew
      next issued hissued =>
        cases hnew
        exact codes_of_mapM hissued

/-! ## One recovery -/

theorem mem_iff_compare (hbcrypt : s.lib.IdealBcrypt) {codes : List Bytes} {hashes : List Text}
    (hcodes : List.Forall₂ s.IsHashOf codes hashes) (code : Bytes) :
    (∃ hash ∈ hashes, s.lib.bcryptCompare hash code = true) ↔ code ∈ codes := by
  induction hcodes with
  | nil => simp
  | @cons first hash codes hashes hhead _ ih =>
      obtain ⟨salt, hgenerate⟩ := hhead
      have hfirst := hbcrypt.compare_iff salt first hash hgenerate code
      simp only [List.mem_cons, or_and_right, exists_or, exists_eq_left, hfirst, ih]

theorem erase_of_getElem? {codes : List Bytes} (hnodup : codes.Nodup) {index : Nat} {code : Bytes}
    (hindex : codes[index]? = some code) : codes.erase code = codes.eraseIdx index := by
  obtain ⟨hlength, rfl⟩ := List.getElem?_eq_some_iff.mp hindex
  exact hnodup.erase_getElem index hlength

section Consume

variable {db : Db} {u : Uuid} {codes : List Bytes}

/-- A code is accepted if it is one of the unused ones of an enabled factor, and no other. -/
theorem acceptsRecoveryCode_iff (hbcrypt : s.lib.IdealBcrypt) (hcodes : s.RecordsCodes db u codes)
    (code : Bytes) : s.AcceptsRecoveryCode db u code ↔ db.TotpEnabled u ∧ code ∈ codes := by
  constructor
  · rintro ⟨row, hrow, henabled, hfits⟩
    exact ⟨⟨row, hrow, henabled⟩, (mem_iff_compare hbcrypt (hcodes row hrow) code).mp hfits⟩
  · rintro ⟨⟨row, hrow, henabled⟩, hmem⟩
    exact ⟨row, hrow, henabled, (mem_iff_compare hbcrypt (hcodes row hrow) code).mpr hmem⟩

/-- An accepted code leaves the row without the hash at its place. -/
theorem consumed_of_ok (hbcrypt : s.lib.IdealBcrypt) (hcodes : s.RecordsCodes db u codes)
    {now : Nat} {code : Bytes}
    (hok : ((s.consumeRecoveryCode u code).run (serve s.lib) now db).1.isOk = true) :
    ∃ row ∈ db.totp u, ∃ spent ∈ ((s.consumeRecoveryCode u code).run (serve s.lib) now db).2.totp u,
      ∃ index, codes[index]? = some code ∧
        spent.recoveryCodesHash = row.recoveryCodesHash.eraseIdx index := by
  rcases run_consumeRecoveryCode now db code with
    ⟨err, hrun⟩ | ⟨row, hrow, -, found, hfound, hrun⟩
  · rw [hrun] at hok
    cases hok
  · obtain ⟨hlength, hcompare, -⟩ := List.findIdx?_eq_some_iff_getElem.mp hfound
    have hindex : codes[found]? = some code :=
      getElem?_of_compare hbcrypt (hcodes row hrow) (List.getElem?_eq_getElem hlength) hcompare
    rw [hrun]
    exact ⟨row, hrow, row.spent found now, Db.setTotp_self .., found, hindex, rfl⟩

end Consume

/-! ## One call -/

/-- The hashes in the row of the user are those that were there before. -/
def Db.KeepsHashes (before after : Db) (u : Uuid) : Prop :=
  ∀ kept ∈ after.totp u, ∃ row ∈ before.totp u, kept.recoveryCodesHash = row.recoveryCodesHash

theorem keepsHashes_refl (db : Db) (u : Uuid) : db.KeepsHashes db u :=
  fun kept hkept => ⟨kept, hkept, rfl⟩

theorem keepsHashes_setTotp {db : Db} {u : Uuid} {row written : UserTotpSecret}
    (hrow : row ∈ db.totp u) (hwritten : written.recoveryCodesHash = row.recoveryCodesHash) :
    db.KeepsHashes (db.setTotp u (some written)) u := by
  intro kept hkept
  obtain rfl : written = kept := Option.some.inj ((Db.setTotp_self ..).symm.trans hkept)
  exact ⟨row, hrow, hwritten⟩

theorem Db.KeepsHashes.recordsCodes {before after : Db} {u : Uuid} {codes : List Bytes}
    (hkeeps : before.KeepsHashes after u) (hcodes : s.RecordsCodes before u codes) :
    s.RecordsCodes after u codes := by
  intro kept hkept
  obtain ⟨row, hrow, hsame⟩ := hkeeps kept hkept
  exact hsame ▸ hcodes row hrow

section Keeps

variable (now : Nat) (db : Db) (u : Uuid) (code : Bytes)

theorem keepsHashes_confirm2FA :
    db.KeepsHashes ((s.confirm2FA u code).run (serve s.lib) now db).2 u := by
  rcases run_confirm2FA now db code with ⟨err, hrun⟩ | ⟨row, hrow, -, hrun⟩
  · rw [hrun]
    exact keepsHashes_refl db u
  · rw [hrun]
    exact keepsHashes_setTotp hrow rfl

theorem keepsHashes_verify2FA :
    db.KeepsHashes ((s.verify2FA u code).run (serve s.lib) now db).2 u := by
  rcases run_verify2FA now db code with ⟨-, err, hrun⟩ |
    ⟨row, hrow, -, -, ⟨-, hrun⟩ | ⟨-, hrun⟩⟩
  · rw [hrun]
    exact keepsHashes_refl db u
  · rw [hrun]
    exact keepsHashes_setTotp hrow rfl
  · rw [hrun]
    exact keepsHashes_setTotp hrow rfl

theorem keepsHashes_disable2FA :
    db.KeepsHashes ((s.disable2FA u code).run (serve s.lib) now db).2 u := by
  rcases run_disable2FA now db code with ⟨-, err, hrun⟩ |
    ⟨row, hrow, -, -, ⟨-, hrun⟩ | ⟨-, hrun⟩⟩
  · rw [hrun]
    exact keepsHashes_refl db u
  · rw [hrun]
    intro kept hkept
    cases (Db.setTotp_self ..).symm.trans hkept
  · rw [hrun]
    exact keepsHashes_setTotp hrow rfl

end Keeps

section Entry

variable {u : Uuid} {entry : s.CallEntry}
  (hprocess : s.processCall entry.instant entry.request entry.before = (entry.reply, entry.after))

include hprocess

/-- What a recovery replies and leaves behind. -/
theorem consume_of_processCall {code : Bytes}
    (hrequest : entry.request = .consumeRecoveryCode u code) :
    entry.reply = ((s.consumeRecoveryCode u code).run (serve s.lib) entry.instant
      entry.before).1.map (fun _ => .done) ∧
    entry.after = ((s.consumeRecoveryCode u code).run (serve s.lib) entry.instant
      entry.before).2 := by
  rw [hrequest] at hprocess
  exact Service.processCall_answered rfl hprocess

/-- A recovery succeeds with a code that fits a stored hash. -/
theorem isOk_consume_iff {code : Bytes} (hrequest : entry.request = .consumeRecoveryCode u code) :
    entry.reply.isOk = true ↔ s.AcceptsRecoveryCode entry.before u code := by
  rw [(consume_of_processCall hprocess hrequest).1, isOk_map,
    ← s.run_consumeRecoveryCode_ok entry.instant]
  cases ((s.consumeRecoveryCode u code).run (serve s.lib) entry.instant entry.before).1 with
  | error err => simp [Except.isOk, Except.toBool]
  | ok _ => simp [Except.isOk, Except.toBool]

variable {codes : List Bytes} (hcodes : s.RecordsCodes entry.before u codes)

include hcodes

theorem setup_entry {draw : SetupDraw} (hrequest : entry.request = .setup2FA draw u) :
    s.RecordsCodes entry.after u (Service.codesAfter u entry codes) ∧
      (Service.codesAfter u entry codes = codes ∨
        Service.codesAfter u entry codes = draw.plainCodes) := by
  obtain ⟨before, now, request, reply, after⟩ := entry
  dsimp only at hprocess hcodes hrequest ⊢
  subst hrequest
  obtain ⟨rfl, rfl⟩ := Service.processCall_answered rfl hprocess
  unfold Service.codesAfter
  rcases s.run_setup2FA now before u draw with ⟨err, hrun⟩ |
    ⟨-, user, url, returned, params, -, hnew, hrun⟩
  · rw [hrun]
    exact ⟨hcodes, .inl rfl⟩
  · simp only [hrun, Except.map, if_true]
    refine ⟨fun row hrow => ?_, .inr (plainCodes_of_newFactor hnew)⟩
    obtain rfl := Option.some.inj ((Db.setTotp_self ..).symm.trans hrow)
    exact (isHashOf_of_newFactor hnew).2

/-- A recovery with one of the unused codes takes this one away; any other is refused. -/
theorem consume_entry (hbcrypt : s.lib.IdealBcrypt) (hnodup : codes.Nodup) {code : Bytes}
    (hrequest : entry.request = .consumeRecoveryCode u code) :
    (entry.reply.isOk = true ↔ entry.before.TotpEnabled u ∧ code ∈ codes) ∧
    (entry.reply.isOk = true → ∃ row ∈ entry.before.totp u, ∃ spent ∈ entry.after.totp u,
      ∃ index, codes[index]? = some code ∧
        Service.codesAfter u entry codes = codes.eraseIdx index ∧
        spent.recoveryCodesHash = row.recoveryCodesHash.eraseIdx index) := by
  obtain ⟨hreply, hafter⟩ := consume_of_processCall hprocess hrequest
  rw [← acceptsRecoveryCode_iff hbcrypt hcodes]
  constructor
  · exact isOk_consume_iff hprocess hrequest
  · intro hok
    obtain ⟨reply, hanswer⟩ : ∃ reply, entry.reply = .ok reply := by
      cases hresult : entry.reply with
      | error err =>
          rw [hresult] at hok
          cases hok
      | ok reply => exact ⟨reply, rfl⟩
    rw [hreply, isOk_map] at hok
    obtain ⟨row, hrow, spent, hspent, index, hindex, hhashes⟩ :=
      consumed_of_ok hbcrypt hcodes hok
    have herase : Service.codesAfter u entry codes = codes.eraseIdx index := by
      unfold Service.codesAfter
      rw [hrequest, hanswer]
      simpa using erase_of_getElem? hnodup hindex
    exact ⟨row, hrow, spent, hafter ▸ hspent, index, hindex, herase, hhashes⟩

theorem recordsCodes_consume (hbcrypt : s.lib.IdealBcrypt) (hnodup : codes.Nodup) {code : Bytes}
    (hrequest : entry.request = .consumeRecoveryCode u code) :
    s.RecordsCodes entry.after u (Service.codesAfter u entry codes) ∧
      (Service.codesAfter u entry codes).Nodup := by
  by_cases hok : entry.reply.isOk = true
  · obtain ⟨row, hrow, spent, hspent, index, -, herase, hhashes⟩ :=
      (consume_entry hprocess hcodes hbcrypt hnodup hrequest).2 hok
    rw [herase]
    refine ⟨fun stored hstored => ?_, hnodup.eraseIdx index⟩
    obtain rfl : spent = stored := Option.some.inj (hspent.symm.trans hstored)
    exact hhashes ▸ forall₂_eraseIdx (hcodes row hrow) index
  · obtain ⟨hreply, hafter⟩ := consume_of_processCall hprocess hrequest
    have hsame : Service.codesAfter u entry codes = codes := by
      unfold Service.codesAfter
      cases hresult : entry.reply with
      | error err => simp
      | ok reply => simp [hresult, Except.isOk, Except.toBool] at hok
    rw [hsame]
    refine ⟨?_, hnodup⟩
    rw [hreply, isOk_map] at hok
    rcases run_consumeRecoveryCode entry.instant entry.before code with
      ⟨err, hrun⟩ | ⟨row, hrow, -, found, -, hrun⟩
    · rw [hafter, hrun]
      exact hcodes
    · rw [hrun] at hok
      exact absurd rfl hok

/-- After each call the row holds the hashes of the unused codes. -/
theorem recordsCodes_processCall (hbcrypt : s.lib.IdealBcrypt) (hnodup : codes.Nodup)
    (hdistinct : ∀ draw, entry.request = .setup2FA draw u → draw.plainCodes.Nodup) :
    s.RecordsCodes entry.after u (Service.codesAfter u entry codes) ∧
      (Service.codesAfter u entry codes).Nodup := by
  by_cases hconsume : ∃ code, entry.request = .consumeRecoveryCode u code
  · obtain ⟨code, hrequest⟩ := hconsume
    exact recordsCodes_consume hprocess hcodes hbcrypt hnodup hrequest
  by_cases hsetup : ∃ draw, entry.request = .setup2FA draw u
  · obtain ⟨draw, hrequest⟩ := hsetup
    obtain ⟨hrecords, hreturned⟩ := setup_entry hprocess hcodes hrequest
    refine ⟨hrecords, ?_⟩
    rcases hreturned with hsame | hnew
    · rw [hsame]
      exact hnodup
    · rw [hnew]
      exact hdistinct draw hrequest
  -- What is left returns no codes and spends none.
  have hsame : Service.codesAfter u entry codes = codes := by
    unfold Service.codesAfter
    split
    next draw userID uri returned hrequest hreply =>
      refine if_neg fun (howner : userID = u) => hsetup ⟨draw, ?_⟩
      rw [hrequest, howner]
    next userID code reply hrequest hreply =>
      refine if_neg fun (howner : userID = u) => hconsume ⟨code, ?_⟩
      rw [hrequest, howner]
    next => rfl
  rw [hsame]
  refine ⟨Db.KeepsHashes.recordsCodes ?_ hcodes, hnodup⟩
  obtain ⟨before, now, request, reply, after⟩ := entry
  dsimp only at hprocess hconsume hsetup ⊢
  have hother : ¬request.TouchesTotp u → before.KeepsHashes after u := by
    intro huntouched kept hkept
    have htotp := Service.processCall_totp (s := s) huntouched now before
    rw [hprocess] at htotp
    exact ⟨kept, htotp.symm.trans hkept, rfl⟩
  cases request with
  | setup2FA draw userID => exact hother fun howner => hsetup ⟨draw, by rw [howner]⟩
  | consumeRecoveryCode userID code => exact hother fun howner => hconsume ⟨code, by rw [howner]⟩
  | confirm2FA userID code =>
      by_cases howner : u = userID
      · subst howner
        obtain ⟨-, rfl⟩ := Service.processCall_answered rfl hprocess
        exact keepsHashes_confirm2FA now before u code
      · exact hother howner
  | verify2FA userID code =>
      by_cases howner : u = userID
      · subst howner
        obtain ⟨-, rfl⟩ := Service.processCall_answered rfl hprocess
        exact keepsHashes_verify2FA now before u code
      · exact hother howner
  | disable2FA userID code =>
      by_cases howner : u = userID
      · subst howner
        obtain ⟨-, rfl⟩ := Service.processCall_answered rfl hprocess
        exact keepsHashes_disable2FA now before u code
      · exact hother howner
  | _ => exact hother id

end Entry

/-! ## Runs -/

section Run

variable {start last : Db} {history : List s.CallEntry} {u : Uuid} {first : List Bytes}

theorem recordsCodes_of_run (hbcrypt : s.lib.IdealBcrypt) (hrun : s.CallRun start history last)
    (hstart : s.RecordsCodes start u first) (hfirst : first.Nodup)
    (hdistinct : ∀ entry ∈ history, ∀ draw, entry.request = .setup2FA draw u →
      draw.plainCodes.Nodup) :
    s.RecordsCodes last u (Service.unusedCodes u first history) ∧
      (Service.unusedCodes u first history).Nodup := by
  revert hdistinct
  apply Serial.invariant (motive := fun history db =>
    (∀ entry ∈ history, ∀ draw, entry.request = .setup2FA draw u → draw.plainCodes.Nodup) →
    s.RecordsCodes db u (Service.unusedCodes u first history) ∧
      (Service.unusedCodes u first history).Nodup) hrun
  · exact fun _ => ⟨hstart, hfirst⟩
  · intro history before now request _ hbefore _ hdistinct
    obtain ⟨hrecords, hnodup⟩ := hbefore fun entry hentry =>
      hdistinct entry (List.mem_cons_of_mem _ hentry)
    exact recordsCodes_processCall (s.processCall_entryAt now request before) hrecords hbcrypt
      hnodup (hdistinct _ List.mem_cons_self)

/-- In every run of calls the row of a user holds the hashes of the unused codes, in their
order. A recovery succeeds with these codes and no others, and takes the one it is given
out of the row. At the start any list of distinct codes will do for a user without a row. -/
theorem recoveryCodes_are_unused (hbcrypt : s.lib.IdealBcrypt)
    (hrun : s.CallRun start history last) (hstart : s.RecordsCodes start u first)
    (hfirst : first.Nodup)
    (hdistinct : ∀ entry ∈ history, ∀ draw, entry.request = .setup2FA draw u →
      draw.plainCodes.Nodup) :
    (∀ row ∈ last.totp u,
      List.Forall₂ s.IsHashOf (Service.unusedCodes u first history) row.recoveryCodesHash) ∧
    ∀ later recovery earlier code, history = later ++ recovery :: earlier →
      recovery.request = .consumeRecoveryCode u code →
      (recovery.reply.isOk = true ↔
        recovery.before.TotpEnabled u ∧ code ∈ Service.unusedCodes u first earlier) ∧
      (recovery.reply.isOk = true →
        ∃ row ∈ recovery.before.totp u, ∃ spent ∈ recovery.after.totp u, ∃ index,
          (Service.unusedCodes u first earlier)[index]? = some code ∧
          Service.unusedCodes u first (recovery :: earlier) =
            (Service.unusedCodes u first earlier).eraseIdx index ∧
          spent.recoveryCodesHash = row.recoveryCodesHash.eraseIdx index) := by
  constructor
  · exact (recordsCodes_of_run hbcrypt hrun hstart hfirst hdistinct).1
  · intro later recovery earlier code hsplit hrequest
    obtain ⟨hearlier, -, hprocess⟩ := Serial.entry hrun hsplit
    have hdrawn : ∀ entry ∈ earlier, ∀ draw, entry.request = .setup2FA draw u →
        draw.plainCodes.Nodup := by
      intro entry hentry
      refine hdistinct entry ?_
      rw [hsplit]
      exact List.mem_append_right _ (List.mem_cons_of_mem _ hentry)
    obtain ⟨hrecords, hnodup⟩ := recordsCodes_of_run hbcrypt hearlier hstart hfirst hdrawn
    exact consume_entry hprocess hrecords hbcrypt hnodup hrequest

end Run

namespace Sample

/-- Alice takes her first recovery code. -/
def spendFirst : service.CallEntry :=
  service.entryAt 5 (.consumeRecoveryCode alice.id spentCode) dbIssued

/-- She tries it once more. -/
def spendAgain : service.CallEntry :=
  service.entryAt 6 (.consumeRecoveryCode alice.id spentCode) spendFirst.after

theorem run_spendAgain : service.CallRun dbIssued [spendAgain, spendFirst] spendAgain.after :=
  Service.callRun_next (Service.callRun_first dbIssued 5 _) 6 _ (by decide)

theorem spendAgain_refused : spendFirst.reply.isOk = true ∧ ¬spendAgain.reply.isOk = true := by
  have hbcrypt : service.lib.IdealBcrypt := Reference.external_idealBcrypt
  obtain ⟨hnodup, row, hrow, -, hhashes⟩ := issued_dbIssued.2
  have hrecords : service.RecordsCodes dbIssued alice.id issuedCodes := by
    intro stored hstored
    obtain rfl := Option.some.inj (hrow.symm.trans hstored)
    exact hhashes
  have hdistinct : ∀ entry ∈ [spendAgain, spendFirst], ∀ draw,
      entry.request = .setup2FA draw alice.id → draw.plainCodes.Nodup := by
    intro entry hentry draw hsetup
    simp only [List.mem_cons, List.not_mem_nil, or_false] at hentry
    rcases hentry with rfl | rfl <;> cases hsetup
  have hok : spendFirst.reply.isOk = true := rfl
  obtain ⟨-, hcalls⟩ :=
    recoveryCodes_are_unused hbcrypt run_spendAgain hrecords hnodup hdistinct
  obtain ⟨row, -, spent, -, index, hindex, hleft, -⟩ :=
    (hcalls [spendAgain] spendFirst [] spentCode rfl rfl).2 hok
  obtain ⟨hagain, -⟩ := hcalls [] spendAgain [spendFirst] spentCode rfl rfl
  refine ⟨hok, fun haccepted => ?_⟩
  rw [hleft] at hagain
  exact not_mem_eraseIdx hnodup hindex (hagain.mp haccepted).2

end Sample

end Skolva.Auth
