import Skolva.Api.Accounts
import Skolva.Http.Authorization

/-! # The server and the audit log

The trigger refuses nothing that a request does, and behind each entry of the log there is the
user whose token the request bears.
-/

namespace Skolva.Http

open Effect Audit
open Auth (actorNull Claims)
open Api (AuditedDb Db)

/-- The actor of the transactions behind an action. -/
def Action.actorID {Token : Type} : Action Token → Uuid
  | .auth request => request.actorID
  | .call method => method.actorID
  | .reject _ | .page => Uuid.nil

/-- The audited table that an action can write to. -/
def Action.auditedTable {Token : Type} : Action Token → Option String
  | .auth _ => some Auth.userTable.name
  | .call method => method.auditedTable
  | .reject _ | .page => none

/-- The action writes to an audited table as the actor of the request. -/
def Action.Signs {Token : Type} : Action Token → Prop
  | .auth request => request.EditsUsers
  | .call method => method.auditedTable ≠ none
  | .reject _ | .page => False

namespace Server

variable (s : Server)

def performAudited (now : Nat) (store : AuditedDb) (action : Action s.Token) :
    Response s.Token × AuditedDb :=
  match action with
  | .auth request =>
      let (reply, after, logs) :=
        Auth.Handler.processAudited s.service now request (store.1.auth, store.2)
      (.auth reply, { store.1 with auth := after }, logs)
  | .call method =>
      let (reply, after) := Api.processAudited s.service now method store
      (.api reply, after)
  | .reject err => (.api (.error err), store)
  | .page => (.page, store)

/-- Process a request with the log. -/
def processAudited (now : Nat) (request : Request) (store : AuditedDb) :
    Response s.Token × AuditedDb :=
  match s.pass now request store.1 with
  | .error refusal => (.refused refusal, store)
  | .ok actor => s.performAudited now store (s.action (s.actorID actor) request store.1)

abbrev AuditedEntry := Effect.Entry Request (Response s.Token) AuditedDb

/-- Runs with the log, from a state in which it has any entries. -/
abbrev AuditedRun (start : AuditedDb) : List s.AuditedEntry → AuditedDb → Prop :=
  s.credentials.Run s.processAudited start

/-- The entry without the log. -/
abbrev unaudited : s.AuditedEntry → s.Entry := Entry.abstracted Prod.fst

variable {s}

/-! ## One action -/

section Perform

variable {now : Nat} {store : AuditedDb} {actor : Uuid} {request : Request} {db : Db}

/-- The transactions have the actor of the request, or none. -/
theorem actorID_action :
    (s.action actor request db).actorID = actor ∨
      (s.action actor request db).actorID = Uuid.nil ∧ ¬(s.action actor request db).Signs := by
  let motive := fun action : Action s.Token =>
    action.actorID = actor ∨ action.actorID = Uuid.nil ∧ ¬action.Signs
  have hreject : ∀ err, motive (.reject err) := fun _ => .inr ⟨rfl, not_false⟩
  unfold action
  cases request.endpoint with
  | register | updateUser | deleteUser => exact .inl rfl
  | createGroup => exact bound_elim (hreject _) fun _ _ => .inl rfl
  | createContact =>
      exact parsed_elim (hreject _) fun _ => bound_elim (hreject _) fun _ _ => .inl rfl
  | deleteGroup => exact parsed_elim (hreject _) fun _ => .inl rfl
  | deleteContact =>
      exact parsed_elim (hreject _) fun _ => parsed_elim (hreject _) fun _ => .inl rfl
  | updateGroup =>
      refine parsed_elim (hreject _) fun id => bound_elim (hreject _) fun req _ => ?_
      rcases @patchedGroup_cases s actor id req with ⟨err, hpatched⟩ | ⟨_, _, _, _, -, hpatched⟩
      · exact hpatched ▸ hreject err
      · exact hpatched ▸ .inl rfl
  | updateContact =>
      refine parsed_elim (hreject _) fun userID => parsed_elim (hreject _) fun contactID =>
        bound_elim (hreject _) fun req _ => ?_
      rcases @patchedContact_cases s actor userID contactID req with
        ⟨err, hpatched⟩ | ⟨_, -, hpatched⟩
      · exact hpatched ▸ hreject err
      · exact hpatched ▸ .inl rfl
  | listUserRoles | removeRole | getGroup | listMembers | listUserGroups | getAddress
  | getPreferences | listContacts =>
      exact parsed_elim (hreject _) fun _ => .inr ⟨rfl, not_not.mpr rfl⟩
  | assignRole | putAddress | putPreferences =>
      exact parsed_elim (hreject _) fun _ => bound_elim (hreject _) fun _ _ =>
        .inr ⟨rfl, not_not.mpr rfl⟩
  | addMember =>
      exact parsed_elim (hreject _) fun _ => bound_elim (hreject _) fun _ _ =>
        parsed_elim (hreject _) fun _ => .inr ⟨rfl, not_not.mpr rfl⟩
  | removeMember =>
      exact parsed_elim (hreject _) fun _ => parsed_elim (hreject _) fun _ =>
        .inr ⟨rfl, not_not.mpr rfl⟩
  | searchUsers =>
      dsimp only
      split
      · exact hreject _
      · exact .inr ⟨rfl, not_not.mpr rfl⟩
  | listUsers | listGroups => exact .inr ⟨rfl, not_not.mpr rfl⟩
  | _ => exact .inr ⟨rfl, not_false⟩

/-- For an actor who is a user, an action does the same with the log as without. -/
structure Agrees (s : Server) (actor : Option Uuid) (table : Option String) (store : AuditedDb)
    (result : Response s.Token × Db) (audited : Response s.Token × AuditedDb) : Prop where
  response : audited.1 = result.1
  state : audited.2.1 = result.2
  accounted : ∃ new, Api.Accounted actor table store audited.2 new

theorem agrees_performAudited (now : Nat) (action : Action s.Token)
    (hknown : ∀ id ∈ actorNull action.actorID, id ∈ store.1.userIDs) :
    s.Agrees (actorNull action.actorID) action.auditedTable store (s.perform now store.1 action)
      (s.performAudited now store action) := by
  cases action with
  | auth request =>
      obtain ⟨hreply, haccounted⟩ :=
        Auth.processAudited_eq s.service now (store.1.auth, store.2) request hknown
      refine ⟨?_, ?_, Api.accounted_of_users haccounted⟩
      · simp only [performAudited, perform, hreply]
      · simp only [performAudited, perform, haccounted.same]
  | call method =>
      obtain ⟨hreply, hstate, haccounted⟩ :
          Api.Agrees (actorNull method.actorID) method.auditedTable store
            (Api.process s.service now method store.1)
            (Api.processAudited s.service now method store) :=
        Api.agrees_processAudited method hknown
      refine ⟨?_, hstate, haccounted⟩
      simp only [performAudited, perform, hreply]
  | reject err => exact ⟨rfl, rfl, [], .nothing (.refl _) rfl _⟩
  | page => exact ⟨rfl, rfl, [], .nothing (.refl _) rfl _⟩

/-- The permission of the routes that write to an audited table. -/
def writePermission (table : String) : String :=
  if table = Groups.groupTable.name then "groups.write" else "users.write"

theorem guard_of_auditedTable {method : Api.Call}
    (haction : s.action actor request db = .call method) {table : String}
    (htable : method.auditedTable = some table) :
    request.endpoint.guard = .requirePermission (writePermission table) := by
  have hendpoint := endpoint_of_call haction
  cases method with
  | auth call => cases hendpoint
  | createContact | updateContact | deleteContact | createGroup | updateGroup | deleteGroup =>
      rw [← Option.some.inj hendpoint, ← Option.some.inj htable]
      rfl
  | _ => cases htable

end Perform

/-! ## Actors are users -/

section Known

variable {now : Nat} {request : Request} {db start last : Db} {history : List s.Entry} {u : Uuid}

theorem known_process (now : Nat) (request : Request) (hknown : db.auth.Known u) :
    (s.process now request db).2.auth.Known u := by
  have hcalls : ∀ {α : Type} (program : Auth.Prog α),
      (program.run (Auth.serve s.service.lib) now db.auth).2.Known u := fun program =>
    Program.run_invariant (Auth.serve s.service.lib) now (motive := fun store => store.Known u)
      program (fun op _ hstore => Auth.Db.known_serve s.service.lib now op hstore) hknown
  unfold process
  cases s.pass now request db with
  | error refusal => exact hknown
  | ok passed =>
      dsimp only
      cases s.action (s.actorID passed) request db with
      | auth call => exact hcalls _
      | reject err => exact hknown
      | page => exact hknown
      | call method =>
          by_cases hauth : method.IsAuth
          · cases method with
            | auth call => exact hcalls _
            | _ => exact hauth.elim
          · obtain ⟨userRoles, hsame⟩ := Api.auth_process s.service now db hauth
            simp only [perform]
            rw [hsame]
            exact hknown

/-- Whoever has signed in has a row. -/
theorem SignsIn.known {entry : s.Entry} (hsigns : s.SignsIn u entry) : entry.before.auth.Known u := by
  obtain ⟨actor, call, -, hpassword | ⟨-, hlive⟩⟩ := hsigns
  · cases call with
    | login draw body =>
        cases body with
        | none => exact hpassword.elim
        | some req =>
            obtain ⟨⟨user, huser, rfl, -⟩, -⟩ := hpassword
            exact List.mem_map_of_mem (List.mem_of_find?_eq_some huser)
    | _ => exact hpassword.elim
  · obtain ⟨user, huser⟩ := Option.isSome_iff_exists.mp hlive
    have hfound := List.find?_some huser
    simp only [decide_eq_true_eq] at hfound
    rw [← hfound.1]
    exact List.mem_map_of_mem (List.mem_of_find?_eq_some huser)

/-- The actor of a request is a user. -/
theorem known_of_pass (hrun : s.Run start history last)
    (hhandedOut : s.credentials.HandedOut history request) {passed : Option Auth.Actor}
    (hpass : s.pass now request last = .ok passed) :
    ∀ id ∈ actorNull (s.actorID passed), id ∈ last.userIDs := by
  intro id hid
  cases passed with
  | none => exact nomatch hid
  | some actor =>
      obtain ⟨claims, hbears, rfl⟩ := bears_of_pass hpass
      obtain ⟨later, mint, earlier, u, hsplit, hminted, hgrants⟩ := hrun.granted hhandedOut hbears
      have hknown : last.auth.Known u :=
        Serial.preserved (motive := fun db => db.auth.Known u) hrun hsplit
          (hgrants.signsIn hminted.processed).known fun now request _ => known_process now request
      rw [hgrants.actorID] at hid
      unfold actorNull at hid
      split at hid
      · cases hid
      · exact Option.some.inj hid ▸ hknown

theorem known_of_action (hrun : s.Run start history last)
    (hhandedOut : s.credentials.HandedOut history request) {passed : Option Auth.Actor}
    (hpass : s.pass now request last = .ok passed) :
    ∀ id ∈ actorNull (s.action (s.actorID passed) request last).actorID, id ∈ last.userIDs := by
  rcases @actorID_action s (s.actorID passed) request last with hactor | ⟨hnil, -⟩
  · rw [hactor]
    exact known_of_pass hrun hhandedOut hpass
  · rw [hnil]
    exact nofun

end Known

/-! ## Runs -/

section Run

variable {start last : AuditedDb} {history : List s.AuditedEntry}

/-- With the log, a request is answered as without it. -/
theorem process_unaudited {now : Nat} {request : Request} {history : List s.Entry} {start : Db}
    {store : AuditedDb} (hrun : s.Run start history store.1)
    (hhandedOut : s.credentials.HandedOut history request) :
    s.process now request store.1 =
      ((s.processAudited now request store).1, (s.processAudited now request store).2.1) := by
  unfold process processAudited
  cases hpass : s.pass now request store.1 with
  | error refusal => rfl
  | ok passed =>
      dsimp only
      have hagrees := agrees_performAudited now (s.action (s.actorID passed) request store.1)
        (known_of_action hrun hhandedOut hpass)
      rw [hagrees.response, hagrees.state]

theorem AuditedRun.unaudited (hrun : s.AuditedRun start history last) :
    s.Run start.1 (history.map s.unaudited) last.1 :=
  Credentials.Run.abstracted hrun fun _ _ _ _ hearlier _ hhandedOut =>
    process_unaudited hearlier hhandedOut

/-- The trigger refuses nothing: the runs with the log are those without it, with the same
replies. -/
theorem run_iff_auditedRun {entries : List s.Entry} {db : Db} :
    s.Run start.1 entries db ↔ ∃ history last, s.AuditedRun start history last ∧
      history.map s.unaudited = entries ∧ last.1 = db := by
  constructor
  · intro hrun
    exact Credentials.Run.concrete hrun fun _ _ _ _ hearlier _ hhandedOut =>
      process_unaudited hearlier hhandedOut
  · rintro ⟨history, last, hrun, rfl, rfl⟩
    exact AuditedRun.unaudited hrun

/-- Who answers for an entry of the log that a request has left: the user whose token it bears,
who has signed in and may write the table, or nobody, if the password of a user was reset with
a valid token. -/
inductive AnswersFor (s : Server) (earlier : List s.Entry) (entry : s.AuditedEntry) (log : AuditLog) :
    Prop where
  | bearer {claims : Claims} {mint : s.Entry} {u : Uuid}
      (hbears : s.Bears entry.instant entry.request claims) (hmint : mint ∈ earlier)
      (hauthorizes : s.Authorizes (writePermission log.tableName) entry.instant claims mint u)
      (hactor : log.actorUserId = actorNull u)
  | reset {actor : Uuid} {call : Auth.Request s.Token}
      (haction : s.action actor entry.request entry.before.1 = .auth call)
      (hresets : s.service.Resets entry.instant entry.before.1.auth call)
      (htable : log.tableName = Auth.userTable.name) (hactor : log.actorUserId = none)

theorem answersFor_of_guard {earlier : List s.AuditedEntry} {entry : s.AuditedEntry}
    (hearlier : s.AuditedRun start earlier entry.before)
    (hclock : ClockForward earlier entry.instant)
    (hhandedOut : s.credentials.HandedOut earlier entry.request) {passed : Option Auth.Actor}
    (hpass : s.pass entry.instant entry.request entry.before.1 = .ok passed) {log : AuditLog}
    (hguard : entry.request.endpoint.guard = .requirePermission (writePermission log.tableName))
    (hactor : log.actorUserId = actorNull (s.actorID passed)) :
    s.AnswersFor (earlier.map s.unaudited) entry log := by
  obtain ⟨claims, hbears, hpermit, rfl⟩ := (pass_permission_iff hguard).mp hpass
  obtain ⟨later, mint, before, u, hsplit, -, hauthorizes⟩ :=
    authorizes_of_bears (AuditedRun.unaudited hearlier) (clockForward_abstracted.mpr hclock)
      (Credentials.handedOut_abstracted.mpr hhandedOut) hbears hpermit
  rw [hauthorizes.grants.actorID] at hactor
  exact .bearer hbears (hsplit ▸ List.mem_append_right _ List.mem_cons_self) hauthorizes hactor

/-- What an action writes as the actor of the request is entered under his name. -/
theorem actor_of_signs {store after : AuditedDb} {new : List AuditLog} {log : AuditLog}
    {actor : Uuid} {request : Request} {table : Option String}
    (haccounted : Api.Accounted (actorNull (s.action actor request store.1).actorID) table store
      after new)
    (hlog : log ∈ new) (hsigns : (s.action actor request store.1).Signs) :
    log.actorUserId = actorNull actor := by
  have hactor : log.actorUserId = _ := haccounted.users.actor log hlog
  rcases @actorID_action s actor request store.1 with hsame | ⟨-, hnot⟩
  · rw [hactor, hsame]
  · exact absurd hsigns hnot

/-- A request of the auth module with an entry edits users, or it resets a password. -/
theorem edits_or_resets {now : Nat} {store after : AuditedDb} {call : Auth.Request s.Token}
    (hafter : after = (s.performAudited now store (.auth call)).2) {actor : Option Uuid}
    {table : Option String} {new : List AuditLog}
    (haccounted : Api.Accounted actor table store after new) {log : AuditLog} (hlog : log ∈ new) :
    call.EditsUsers ∨ s.service.Resets now store.1.auth call := by
  refine @Auth.edits_or_resets s.service now (store.1.auth, store.2) call fun hsame => ?_
  have hlater : after.2 = store.2 := by
    rw [hafter]
    exact hsame
  rw [haccounted.log] at hlater
  have hnone := List.append_left_eq_self.mp hlater
  exact absurd (hnone ▸ hlog) List.not_mem_nil

/-- Somebody answers for each entry of a request that has got past its guard. -/
theorem answersFor_of_accounted {earlier : List s.AuditedEntry} {entry : s.AuditedEntry}
    (hearlier : s.AuditedRun start earlier entry.before)
    (hclock : ClockForward earlier entry.instant)
    (hhandedOut : s.credentials.HandedOut earlier entry.request) {passed : Option Auth.Actor}
    (hpass : s.pass entry.instant entry.request entry.before.1 = .ok passed)
    (hafter : entry.after = (s.performAudited entry.instant entry.before
      (s.action (s.actorID passed) entry.request entry.before.1)).2) {new : List AuditLog}
    (haccounted : Api.Accounted
      (actorNull (s.action (s.actorID passed) entry.request entry.before.1).actorID)
      (s.action (s.actorID passed) entry.request entry.before.1).auditedTable entry.before
      entry.after new) {log : AuditLog} (hlog : log ∈ new) :
    s.AnswersFor (earlier.map s.unaudited) entry log := by
  have hsigned := actor_of_signs haccounted hlog
  have htable := haccounted.table log hlog
  cases haction : s.action (s.actorID passed) entry.request entry.before.1 with
  | auth call =>
      have hguard := @guard_of_editsUsers s entry.before.1 (s.actorID passed) entry.request
      rw [haction] at hafter htable haccounted hsigned hguard
      have hname : log.tableName = Auth.userTable.name := (Option.some.inj htable).symm
      rcases edits_or_resets hafter haccounted hlog with hedits | hresets
      · have hpermission : writePermission log.tableName = "users.write" := by
          rw [hname]
          rfl
        exact answersFor_of_guard hearlier hclock hhandedOut hpass (hpermission ▸ hguard hedits)
          (hsigned hedits)
      · refine .reset haction hresets hname ?_
        cases call with
        | resetPassword salt body => exact haccounted.users.actor log hlog
        | _ => exact hresets.elim
  | call method =>
      rw [haction] at htable hsigned
      have hguard := guard_of_auditedTable haction htable
      exact answersFor_of_guard hearlier hclock hhandedOut hpass hguard
        (hsigned (Option.ne_none_iff_exists'.mpr ⟨_, htable⟩))
  | reject err =>
      rw [haction] at htable
      cases htable
  | page =>
      rw [haction] at htable
      cases htable

/-- In every run with the log, each row of the audited tables that a request changes has an entry
among those that the request adds, and for each of these somebody answers. -/
theorem changes_accounted (hrun : s.AuditedRun start history last)
    {later earlier : List s.AuditedEntry} {entry : s.AuditedEntry}
    (hsplit : history = later ++ entry :: earlier) :
    ∃ actor table new, Api.Accounted actor table entry.before entry.after new ∧
      ∀ log ∈ new, s.AnswersFor (earlier.map s.unaudited) entry log := by
  obtain ⟨hearlier, ⟨hclock, hhandedOut⟩, hprocess⟩ := Serial.entry hrun hsplit
  have hafter : entry.after = (s.processAudited entry.instant entry.request entry.before).2 := by
    rw [hprocess]
  unfold processAudited at hafter
  cases hpass : s.pass entry.instant entry.request entry.before.1 with
  | error refusal =>
      rw [hpass] at hafter
      exact ⟨none, none, [], hafter ▸ .nothing (.refl _) rfl none, nofun⟩
  | ok passed =>
      rw [hpass] at hafter
      dsimp only at hafter
      have hknown := known_of_action (AuditedRun.unaudited hearlier)
        (Credentials.handedOut_abstracted.mpr hhandedOut) hpass
      have hagrees := agrees_performAudited entry.instant
        (s.action (s.actorID passed) entry.request entry.before.1) hknown
      obtain ⟨new, haccounted⟩ := hagrees.accounted
      rw [← hafter] at haccounted
      exact ⟨_, _, new, haccounted, fun log hlog =>
        answersFor_of_accounted hearlier hclock hhandedOut hpass hafter haccounted hlog⟩

end Run

end Server

namespace Sample

/-- `PATCH /users/:id` for Bob. -/
def renameRequest : Request where
  endpoint := .updateUser
  bearer := some "eyJ"
  param := fun _ => Auth.Sample.service.lib.uuidString bob.id
  query := fun _ => ""
  body := some (object [("first_name", "Robert"), ("last_name", "Bauer")])
  draws := draws

def auditedEntryAt (now : Nat) (request : Request) (before : AuditedDb) : server.AuditedEntry :=
  ⟨before, now, request, (server.processAudited now request before).1,
    (server.processAudited now request before).2⟩

def auditedLogin : server.AuditedEntry := auditedEntryAt loginAt loginRequest (db, [])

def rename : server.AuditedEntry := auditedEntryAt appointAt renameRequest auditedLogin.after

theorem tokens_auditedLogin : auditedLogin.reply.tokens = [server.readToken "eyJ"] := by decide

theorem handedOut_rename : server.credentials.HandedOut [auditedLogin] renameRequest := by
  intro claims hpresents
  obtain ⟨token, htoken, hparse⟩ := hpresents
  have hpresented : server.presented renameRequest = [server.readToken "eyJ"] := by decide
  obtain rfl : token = server.readToken "eyJ" := List.mem_singleton.mp (hpresented ▸ htoken)
  exact ⟨auditedLogin, List.mem_singleton_self _, _,
    tokens_auditedLogin ▸ List.mem_singleton_self _, hparse⟩

theorem run_rename : server.AuditedRun (db, []) [rename, auditedLogin] rename.after := by
  have hlogin : server.AuditedRun (db, []) [auditedLogin] auditedLogin.after :=
    Serial.cons loginAt loginRequest Serial.nil
      ⟨fun _ hentry => absurd hentry (Option.not_mem_none _), fun claims hpresents => by
        obtain ⟨token, htoken, -⟩ := hpresents
        have hpresented : server.presented loginRequest = [] := by decide
        exact absurd (hpresented ▸ htoken) List.not_mem_nil⟩
  refine Serial.cons appointAt renameRequest hlogin ⟨fun entry hentry => ?_, handedOut_rename⟩
  obtain rfl := Option.some.inj hentry
  decide

theorem rename_accounted : rename.after.2 ≠ [] ∧
    ∃ actor table new, Api.Accounted actor table rename.before rename.after new ∧
      ∀ log ∈ new, server.AnswersFor ([auditedLogin].map server.unaudited) rename log :=
  ⟨by decide, Server.changes_accounted run_rename (List.nil_append _).symm⟩

end Sample

end Skolva.Http
