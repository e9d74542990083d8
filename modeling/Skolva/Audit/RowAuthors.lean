import Skolva.Audit.Completeness
import Skolva.Dbexec
import Skolva.Sql.ActorTrail
import Skolva.Sql.Query
import Mathlib.Tactic.Ring

/-! # Who has written a row

The column `updated_by` of a row is a parameter of the statement that writes it. The actor of
its entry in `audit_logs` comes from the session, where `dbexec.WithActor` sets it.
-/

namespace Skolva.Audit

/-! ## The text of a `uuid` -/

def hexChar (digit : Nat) : Char := "0123456789abcdef".toList.getD digit '0'

/-- Write so many bytes of two digits each, the highest first. -/
def writeBytes : (count : Nat) → (value : Nat) → List Char
  | 0, _ => []
  | count + 1, value =>
      let byte := value / 256 ^ count % 256
      let rest := writeBytes count value
      -- The hyphens stand after 4, 6, 8 and 10 of 16 bytes.
      let digits := if count ∈ [12, 10, 8, 6] then '-' :: rest else rest
      hexChar (byte / 16) :: hexChar (byte % 16) :: digits

/-- The cast of a `uuid` to text. -/
def uuidOut (id : Uuid) : String := String.ofList (writeBytes 16 id.toNat)

theorem hexDigit_hexChar : ∀ digit < 16, hexDigit (hexChar digit) = some digit := by decide

theorem hexChar_plain : ∀ digit < 16, hexChar digit ≠ '-' ∧ hexChar digit ≠ '{' := by decide

/-- The text of bytes begins with a digit. -/
theorem head_writeBytes (count value : Nat) :
    (writeBytes count value).head? ≠ some '-' ∧ (writeBytes count value).head? ≠ some '{' := by
  cases count with
  | zero => exact ⟨nofun, nofun⟩
  | succ count =>
      have hbyte : value / 256 ^ count % 256 / 16 < 16 := by omega
      obtain ⟨hhyphen, hbrace⟩ := hexChar_plain _ hbyte
      exact ⟨fun h => hhyphen (Option.some.inj h), fun h => hbrace (Option.some.inj h)⟩

/-- What has been written is read again. -/
theorem readBytes_writeBytes (count value read : Nat) :
    readBytes count (writeBytes count value) read =
      some (read * 256 ^ count + value % 256 ^ count, []) := by
  induction count generalizing read with
  | zero => simp [readBytes, writeBytes, Nat.mod_one]
  | succ count ih =>
      have hhigh : value / 256 ^ count % 256 / 16 < 16 := by omega
      have hlow : value / 256 ^ count % 256 % 16 < 16 := by omega
      have hrest : ∀ digits, digits = (if count ∈ [12, 10, 8, 6] then
            '-' :: writeBytes count value else writeBytes count value) →
          (if count % 2 = 0 ∧ 0 < count ∧ digits.head? = some '-' then digits.tail else digits) =
            writeBytes count value := by
        rintro digits rfl
        by_cases hhyphen : count ∈ [12, 10, 8, 6]
        · have hcount : count % 2 = 0 ∧ 0 < count := by
            simp only [List.mem_cons, List.not_mem_nil, or_false] at hhyphen
            omega
          rw [if_pos hhyphen, if_pos ⟨hcount.1, hcount.2, rfl⟩, List.tail_cons]
        · rw [if_neg hhyphen, if_neg fun h => (head_writeBytes count value).1 h.2.2]
      have hsum : read * 256 + value / 256 ^ count % 256 / 16 * 16 +
          value / 256 ^ count % 256 % 16 = read * 256 + value / 256 ^ count % 256 := by
        omega
      simp only [writeBytes, readBytes, hexDigit_hexChar _ hhigh, hexDigit_hexChar _ hlow,
        Option.bind_eq_bind, Option.bind_some]
      rw [hrest _ rfl, ih, hsum, Nat.mod_pow_succ]
      congr 2
      ring

theorem uuidIn_uuidOut (id : Uuid) : uuidIn (uuidOut id) = some id := by
  have hread := readBytes_writeBytes 16 id.toNat 0
  have hvalue : 0 * 256 ^ 16 + id.toNat % 256 ^ 16 = id.toNat := by
    rw [Nat.zero_mul, Nat.zero_add]
    exact Nat.mod_eq_of_lt id.isLt
  unfold uuidIn uuidOut
  simp only [String.toList_ofList, (head_writeBytes 16 id.toNat).2, if_false]
  rw [hread, hvalue]
  simp

theorem uuidOut_injective : Function.Injective uuidOut := by
  intro one other heq
  have hread := congrArg uuidIn heq
  rwa [uuidIn_uuidOut, uuidIn_uuidOut, Option.some.injEq] at hread

/-! ## The session -/

/-- The settings in a transaction of `dbexec.WithActor`. Without an actor, and outside of such
a transaction, the session has none. -/
def sessionOf (actor : Option Uuid) : Settings := ⟨actor.map uuidOut, none⟩

theorem auditActor_sessionOf (actor : Option Uuid) : auditActor (sessionOf actor) = .ok actor := by
  cases actor with
  | none => rfl
  | some id =>
      have hread := uuidIn_uuidOut id
      have htext : uuidOut id ≠ "" := by
        intro hempty
        rw [hempty] at hread
        cases hread
      simp only [sessionOf, auditActor, Option.map_some, hread]
      rw [if_neg htext]

theorem actorAmong_sessionOf_iff (actor : Option Uuid) (users : List Uuid) :
    (sessionOf actor).ActorAmong users ↔ ∀ id ∈ actor, id ∈ users := by
  rw [← auditActor_ok_iff, auditActor_sessionOf]
  simp [Option.all_eq_true]

/-! ## Tables with authors -/

/-- An instant in a column that can be `NULL`. -/
def instantJson (instant : Option Nat) : Json := instant.elim .null .timestamp

/-- An audited table, by what triggers look at in its rows, and by `updated_by`. -/
structure Authored (Row : Type) where
  name : String
  /-- The columns beside `id` that triggers look at. -/
  columns : List (String × (Row → Json))
  id : Row → Uuid
  updatedBy : Row → Option Uuid

namespace Authored

variable {Item : Type} (authored : Authored Item)

def table : Table := .withId authored.name (authored.columns.map Prod.fst)

/-- `to_jsonb` of a row. -/
def toJsonb (item : Item) : Row := fun column =>
  if column = "id" then .string (uuidOut (authored.id item))
  else (authored.columns.lookup column).elim .null fun read => read item

def change : Option Item × Item → RowChange
  | (none, new) => .insert (authored.toJsonb new)
  | (some old, new) => .update (authored.toJsonb old) (authored.toJsonb new)

/-- The rows of the table and their entries, by the texts of the keys. -/
def trail : Sql.Trail Item String AuditLog (Option Uuid) where
  key item := uuidOut (authored.id item)
  author := authored.updatedBy
  about log := if log.tableName = authored.name then some log.recordPk else none
  actor := AuditLog.actorUserId

/-- The entries of a write, the latest first. The users are those after the write. -/
def trigger (session : Option Uuid) (users : List Uuid) (now : Nat) (items : List Item)
    (write : Sql.RowWrite Item) : Except Refusal (List AuditLog) :=
  (auditTrigger (sessionOf session) users now authored.table
    ((write.changes items).map authored.change)).map List.reverse

/-- Each row names the actor of its latest entry. -/
def Agrees (items : List Item) (logs : List AuditLog) : Prop := authored.trail.Agrees items logs

instance (items : List Item) (logs : List AuditLog) : Decidable (authored.Agrees items logs) :=
  inferInstanceAs (Decidable (authored.trail.Agrees items logs))

variable {authored} {session : Option Uuid} {users : List Uuid} {now : Nat} {items : List Item}
  {write : Sql.RowWrite Item} {new : List AuditLog}

theorem toJsonb_id (item : Item) :
    authored.toJsonb item "id" = .string (uuidOut (authored.id item)) := if_pos rfl

theorem change_row (pair : Option Item × Item) :
    (authored.change pair).new = some (authored.toJsonb pair.2) ∧
      (authored.change pair).row = authored.toJsonb pair.2 := by
  obtain ⟨old, new⟩ := pair
  cases old <;> exact ⟨rfl, rfl⟩

theorem keys_nodup (hids : (items.map authored.id).Nodup) :
    (items.map authored.trail.key).Nodup := by
  have hmap : items.map authored.trail.key = (items.map authored.id).map uuidOut := by
    rw [List.map_map]
    rfl
  rw [hmap]
  exact hids.map uuidOut_injective

/-- The trigger has nothing against an actor that is a user. -/
theorem auditTrigger_changes (authored : Authored Item) (hactor : ∀ id ∈ session, id ∈ users)
    (now : Nat) (changes : List (Option Item × Item)) :
    ∃ logs, auditTrigger (sessionOf session) users now authored.table
        (changes.map authored.change) = .ok logs ∧
      List.Forall₂ (Records (sessionOf session) authored.table) (changes.map authored.change)
        logs := by
  apply auditTrigger_ok rfl
  · intro change hchange
    obtain ⟨pair, -, rfl⟩ := List.mem_map.mp hchange
    rw [(change_row pair).1, (change_row pair).2]
  · intro change hchange
    obtain ⟨pair, -, rfl⟩ := List.mem_map.mp hchange
    rw [(change_row pair).2]
    exact congrArg (fun json => json.text.isSome) (toJsonb_id pair.2)
  · exact List.mem_cons_self
  · exact (actorAmong_sessionOf_iff session users).mpr hactor

theorem trigger_ok (authored : Authored Item) (hactor : ∀ id ∈ session, id ∈ users) (now : Nat)
    (items : List Item) (write : Sql.RowWrite Item) :
    ∃ new, authored.trigger session users now items write = .ok new := by
  obtain ⟨logs, hlogs, -⟩ := authored.auditTrigger_changes hactor now (write.changes items)
  exact ⟨logs.reverse, by rw [trigger, hlogs]; rfl⟩

/-- An actor with an entry is a user. -/
theorem known_of_auditTrigger {pair : Option Item × Item} {changes : List (Option Item × Item)}
    {logs : List AuditLog}
    (hlogs : auditTrigger (sessionOf session) users now authored.table
      ((pair :: changes).map authored.change) = .ok logs) :
    ∀ id ∈ session, id ∈ users := by
  have hnew : (authored.change pair).new = some (authored.change pair).row := by
    rw [(change_row pair).1, (change_row pair).2]
  rw [List.map_cons, auditTrigger_cons hnew] at hlogs
  obtain ⟨first, hfirst, -⟩ := Sql.ok_of_bind hlogs
  exact (actorAmong_sessionOf_iff session users).mp (auditable_of_ok hnew hfirst).2

/-- The trigger records what a write does. -/
theorem records_of_trigger (hnew : authored.trigger session users now items write = .ok new) :
    ∃ logs, new = logs.reverse ∧ List.Forall₂ (Records (sessionOf session) authored.table)
      ((write.changes items).map authored.change) logs := by
  unfold trigger at hnew
  cases hlogs : auditTrigger (sessionOf session) users now authored.table
      ((write.changes items).map authored.change) with
  | error refusal =>
      rw [hlogs] at hnew
      cases hnew
  | ok logs =>
      rw [hlogs] at hnew
      refine ⟨logs, (Except.ok.inj hnew).symm, ?_⟩
      cases hchanges : write.changes items with
      | nil =>
          rw [hchanges] at hlogs
          obtain rfl := Except.ok.inj hlogs
          exact .nil
      | cons pair changes =>
          rw [hchanges] at hlogs
          obtain ⟨logs', hlogs', hrecords⟩ := authored.auditTrigger_changes
            (known_of_auditTrigger hlogs) now (pair :: changes)
          rw [hlogs] at hlogs'
          obtain rfl := Except.ok.inj hlogs'
          exact hrecords

theorem about_of_records {pair : Option Item × Item} {log : AuditLog}
    (hrecords : Records (sessionOf session) authored.table (authored.change pair) log) :
    log.tableName = authored.name ∧ authored.trail.actor log = session ∧
      authored.trail.about log = some (authored.trail.key pair.2) := by
  have hname : log.tableName = authored.name := hrecords.tableName
  have hactor := hrecords.actor
  rw [auditActor_sessionOf] at hactor
  have hkey := hrecords.key
  rw [(change_row pair).2, show authored.table.primaryKey = "id" from rfl, toJsonb_id] at hkey
  refine ⟨hname, (Except.ok.inj hactor).symm, ?_⟩
  rw [show authored.trail.about log = some log.recordPk from if_pos hname]
  exact hkey.symm

/-- The entries of a write name the actor of the session, and are about the rows that it
writes. -/
theorem enters_of_trigger (hnew : authored.trigger session users now items write = .ok new) :
    authored.trail.Enters (write.written items) session new ∧
      ∀ log ∈ new, log.tableName = authored.name := by
  obtain ⟨logs, rfl, hrecords⟩ := records_of_trigger hnew
  have hpairs := List.forall₂_map_left_iff.mp hrecords
  have hlogs : ∀ log ∈ logs.reverse, ∃ pair ∈ write.changes items,
      Records (sessionOf session) authored.table (authored.change pair) log :=
    fun log hlog => Sql.exists_of_forall₂ hpairs log (List.mem_reverse.mp hlog)
  refine ⟨⟨?_, ?_, ?_⟩, ?_⟩
  · intro log hlog
    obtain ⟨pair, -, hrecord⟩ := hlogs log hlog
    exact (about_of_records hrecord).2.1
  · intro log hlog
    obtain ⟨pair, hpair, hrecord⟩ := hlogs log hlog
    refine ⟨pair.2, ?_, (about_of_records hrecord).2.2⟩
    rw [← write.map_changes]
    exact List.mem_map_of_mem hpair
  · intro item hitem
    rw [← write.map_changes] at hitem
    obtain ⟨pair, hpair, rfl⟩ := List.mem_map.mp hitem
    obtain ⟨log, hlog, hrecord⟩ := Sql.exists_of_forall₂ hpairs.flip pair hpair
    exact ⟨log, List.mem_reverse.mpr hlog, (about_of_records hrecord).2.2⟩
  · intro log hlog
    obtain ⟨pair, -, hrecord⟩ := hlogs log hlog
    exact (about_of_records hrecord).1

end Authored

/-! ## A table and the log over requests -/

/-- The later log has more entries, all of one table. -/
def Extends (name : String) (logs later : List AuditLog) : Prop :=
  ∃ new, later = new ++ logs ∧ ∀ log ∈ new, log.tableName = name

theorem Extends.refl (name : String) (logs : List AuditLog) : Extends name logs logs :=
  ⟨[], rfl, nofun⟩

theorem Extends.trans {name : String} {logs between later : List AuditLog}
    (hlater : Extends name between later) (hearlier : Extends name logs between) :
    Extends name logs later := by
  obtain ⟨newer, rfl, hnewer⟩ := hlater
  obtain ⟨new, rfl, hnew⟩ := hearlier
  exact ⟨newer ++ new, (List.append_assoc ..).symm, List.forall_mem_append.mpr ⟨hnewer, hnew⟩⟩

namespace Authored

variable {Item : Type} (authored : Authored Item)

/-- The keys are distinct, and each row names the actor of its latest entry. -/
structure Lawful (items : List Item) (logs : List AuditLog) : Prop where
  ids : (items.map authored.id).Nodup
  agrees : authored.Agrees items logs

/-- What a request leaves of the table and the log: rows that name the actors of their latest
entries if and only if it signs what it writes. -/
structure Traced (signs : Prop) (logs : List AuditLog) (after : List Item)
    (later : List AuditLog) : Prop where
  ids : (after.map authored.id).Nodup
  log : Extends authored.name logs later
  agrees_iff_signs : authored.Agrees after later ↔ signs

variable {authored} {session : Option Uuid} {users : List Uuid} {now : Nat}
  {items after : List Item} {write : Sql.RowWrite Item} {logs later new : List AuditLog}
  {signs : Prop}

/-- The entries of another table do not matter. -/
theorem Agrees.extends {name : String} (hagrees : authored.Agrees items logs)
    (hlater : Extends name logs later) (hname : name ≠ authored.name) :
    authored.Agrees items later := by
  obtain ⟨new, rfl, hnew⟩ := hlater
  refine Sql.Trail.Agrees.of_unmentioned hagrees fun log hlog => if_neg ?_
  rw [hnew log hlog]
  exact hname

theorem Traced.of_lawful (hlawful : authored.Lawful after later)
    (hlog : Extends authored.name logs later) (hsigns : signs) :
    authored.Traced signs logs after later :=
  ⟨hlawful.ids, hlog, iff_of_true hlawful.agrees hsigns⟩

/-- A request that writes nothing. -/
theorem Lawful.unchanged (hlawful : authored.Lawful items logs) (hsigns : signs) :
    authored.Traced signs logs items logs :=
  .of_lawful hlawful (.refl ..) hsigns

/-- One write signs if it makes the actor of the session the author of all rows it writes. -/
theorem Lawful.written (hlawful : authored.Lawful items logs)
    (hnew : authored.trigger session users now items write = .ok new)
    (hids : ((write.after items).map authored.id).Nodup) :
    authored.Traced (∀ item ∈ write.written items, authored.updatedBy item = session) logs
      (write.after items) (new ++ logs) where
  ids := hids
  log := ⟨new, rfl, (enters_of_trigger hnew).2⟩
  agrees_iff_signs := (enters_of_trigger hnew).1.agrees_after_iff (keys_nodup hids) hlawful.agrees

/-- So do two writes of one session, if the second leaves what the first has written. -/
theorem Lawful.written_twice {first second : Sql.RowWrite Item} {users' : List Uuid}
    {newer : List AuditLog} (hlawful : authored.Lawful items logs)
    (hfirst : authored.trigger session users now items first = .ok new)
    (hsecond : authored.trigger session users' now (first.after items) second = .ok newer)
    (hids : ((second.after (first.after items)).map authored.id).Nodup)
    (hkept : first.written items ⊆ second.after (first.after items)) :
    authored.Traced ((∀ item ∈ first.written items, authored.updatedBy item = session) ∧
        ∀ item ∈ second.written (first.after items), authored.updatedBy item = session) logs
      (second.after (first.after items)) (newer ++ (new ++ logs)) where
  ids := hids
  log := .trans ⟨newer, rfl, (enters_of_trigger hsecond).2⟩ ⟨new, rfl, (enters_of_trigger hfirst).2⟩
  agrees_iff_signs := (enters_of_trigger hfirst).1.agrees_append_iff (enters_of_trigger hsecond).1
    (keys_nodup hids) hkept hlawful.agrees

theorem Traced.iff {other : Prop} (htraced : authored.Traced signs logs after later)
    (hsigns : signs ↔ other) : authored.Traced other logs after later :=
  ⟨htraced.ids, htraced.log, htraced.agrees_iff_signs.trans hsigns⟩

theorem Traced.lawful (htraced : authored.Traced signs logs after later) (hsigns : signs) :
    authored.Lawful after later :=
  ⟨htraced.ids, htraced.agrees_iff_signs.mpr hsigns⟩

end Authored

/-! ## Statements of a transaction -/

section Statement

variable {Item Db α : Type} (authored : Authored Item) (session : Option Uuid)
  (users : Db → List Uuid) (items : Db → List Item) (now : Nat)

/-- A statement with the audit trigger of its table. The log begins with its latest entry. -/
def Authored.statement (write : Sql.RowWrite Item) (body : Dbexec.Tx Db α) :
    Dbexec.Tx (Db × List AuditLog) α := fun store =>
  match body store.1 with
  | .error cause => .error cause
  | .ok (out, after) =>
      match authored.trigger session (users after) now (items store.1) write with
      | .error _ => .error .foreignKeyViolation
      | .ok new => .ok (out, after, new ++ store.2)

variable {authored session users items now} in
theorem Authored.statement_error {write : Sql.RowWrite Item} {body : Dbexec.Tx Db α}
    {store : Db × List AuditLog} {cause : Dbexec.CallError} (hbody : body store.1 = .error cause) :
    authored.statement session users items now write body store = .error cause := by
  simp only [statement, hbody]

/-- The trigger refuses what has been written by an actor who is no user. -/
theorem Authored.statement_ok (write : Sql.RowWrite Item) {body : Dbexec.Tx Db α}
    (store : Db × List AuditLog) {out : α} {after : Db} (hbody : body store.1 = .ok (out, after)) :
    (∃ new, authored.trigger session (users after) now (items store.1) write = .ok new ∧
      authored.statement session users items now write body store =
        .ok (out, after, new ++ store.2)) ∨
    (¬∀ id ∈ session, id ∈ users after) ∧
      authored.statement session users items now write body store =
        .error .foreignKeyViolation := by
  unfold statement
  rw [hbody]
  cases htrigger : authored.trigger session (users after) now (items store.1) write with
  | ok new => exact Or.inl ⟨new, rfl, by simp only [htrigger]⟩
  | error refusal =>
      refine Or.inr ⟨fun hactor => ?_, by simp only [htrigger]⟩
      obtain ⟨new, hnew⟩ := authored.trigger_ok hactor now (items store.1) write
      rw [htrigger] at hnew
      cases hnew

/-- A statement has done its write, and signed it. -/
structure Authored.Performs (write : Sql.RowWrite Item) (found after : Db) : Prop where
  sameUsers : users after = users found
  written : items after = write.after (items found)
  ids : ((items after).map authored.id).Nodup
  signs : ∀ item ∈ write.written (items found), authored.updatedBy item = session

/-- What a transaction leaves of the table and the log. -/
def Authored.Leads (signs : Prop) (store after : Db × List AuditLog) : Prop :=
  users after.1 = users store.1 ∧ authored.Traced signs store.2 (items after.1) after.2

variable {authored session users items now} {signs other : Prop} {store after : Db × List AuditLog}

theorem Authored.Leads.iff (hleads : authored.Leads users items signs store after)
    (hsigns : signs ↔ other) : authored.Leads users items other store after :=
  ⟨hleads.1, hleads.2.iff hsigns⟩

theorem Authored.Lawful.leads (hlawful : authored.Lawful (items store.1) store.2)
    (hsigns : signs) : authored.Leads users items signs store store :=
  ⟨rfl, hlawful.unchanged hsigns⟩

/-- A transaction of one statement. -/
theorem Authored.leads_statement {write : Sql.RowWrite Item} {body : Dbexec.Tx Db α}
    (hlawful : authored.Lawful (items store.1) store.2)
    (hbody : ∀ out after, body store.1 = .ok (out, after) →
      authored.Performs session users items write store.1 after) :
    authored.Leads users items True store
      (Dbexec.committed (authored.statement session users items now write body) store).2 := by
  unfold Dbexec.committed
  cases hresult : body store.1 with
  | error cause =>
      rw [statement_error hresult]
      exact hlawful.leads trivial
  | ok result =>
      obtain ⟨out, after⟩ := result
      have hperforms := hbody out after hresult
      rcases authored.statement_ok session users items now write store hresult with
        ⟨new, hnew, hstatement⟩ | ⟨-, hstatement⟩
      · rw [hstatement]
        have htraced := hlawful.written hnew (hperforms.written ▸ hperforms.ids)
        refine ⟨hperforms.sameUsers, ?_⟩
        simp only [hperforms.written]
        exact htraced.iff (iff_true_intro hperforms.signs)
      · rw [hstatement]
        exact hlawful.leads trivial

/-- A transaction of two statements signs if the first one does. -/
theorem Authored.leads_statements {Out : Type} (now : Nat) {first second : Sql.RowWrite Item} {out : Out}
    {found : Db} {clear : Dbexec.Tx Db Out} {body : Dbexec.Tx Db α}
    (hlawful : authored.Lawful (items store.1) store.2)
    (hclear : clear store.1 = .ok (out, found)) (hfoundUsers : users found = users store.1)
    (hfound : items found = first.after (items store.1))
    (hbody : ∀ out after, body found = .ok (out, after) →
      authored.Performs session users items second found after ∧
        (∀ id ∈ session, id ∈ users store.1) ∧ first.written (items store.1) ⊆ items after) :
    let tx : Dbexec.Tx (Db × List AuditLog) α := do
      let _ ← authored.statement session users items now first clear
      authored.statement session users items now second body
    authored.Leads users items ((∃ out after, body found = .ok (out, after)) →
        ∀ item ∈ first.written (items store.1), authored.updatedBy item = session)
      store (Dbexec.committed tx store).2 := by
  intro tx
  have htx : tx store = authored.statement session users items now first clear store >>=
      fun result => authored.statement session users items now second body result.2 := rfl
  unfold Dbexec.committed
  rw [htx]
  rcases authored.statement_ok session users items now first store hclear with
    ⟨new, hnew, hfirst⟩ | ⟨hactor, hfirst⟩
  · rw [hfirst]
    cases hresult : body found with
    | error cause =>
        have hsecond : authored.statement session users items now second body
            (found, new ++ store.2) = .error cause := statement_error hresult
        simp only [bind, Except.bind, hsecond]
        exact hlawful.leads nofun
    | ok result =>
        obtain ⟨out, after⟩ := result
        obtain ⟨hperforms, hknown, hkept⟩ := hbody out after hresult
        rcases authored.statement_ok session users items now second (found, new ++ store.2)
            hresult with ⟨newer, hnewer, hsecond⟩ | ⟨hactor, hsecond⟩
        · simp only [bind, Except.bind, hsecond]
          have hafter := hperforms.written
          have hids := hperforms.ids
          have hsigns := hperforms.signs
          rw [hfound] at hafter hsigns
          rw [hafter] at hids hkept
          have htraced := hlawful.written_twice hnew (hfound ▸ hnewer) hids hkept
          refine ⟨hperforms.sameUsers.trans hfoundUsers, ?_⟩
          simp only [hafter]
          refine htraced.iff ⟨fun hauthors _ => hauthors.1, fun hauthors => ?_⟩
          exact ⟨hauthors ⟨out, after, rfl⟩, hsigns⟩
        · rw [hperforms.sameUsers.trans hfoundUsers] at hactor
          exact absurd hknown hactor
  · -- The first statement has been refused for the actor, and the second would have been.
    rw [hfirst]
    refine hlawful.leads ?_
    rintro ⟨out, after, hresult⟩
    rw [hfoundUsers] at hactor
    exact absurd (hbody out after hresult).2.1 hactor

end Statement

end Skolva.Audit
