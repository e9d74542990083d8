import Skolva.Http.Calls
import Skolva.Http.Changes

/-! # What contacts, addresses and preferences are seen by

The routes of the crm module are the only ones that show its tables, and these decide nothing
that other routes reply.
-/

namespace Skolva.Api

/-- The database with the tables of the crm module emptied. -/
def Db.withoutCrm (db : Db) : Db := { db with contacts := [], addresses := [], preferences := [] }

def Call.IsCrm : Call → Prop
  | .getAddress _ | .upsertAddress .. | .getPreferences _ | .upsertPreferences .. => True
  | .listContacts _ | .createContact .. | .updateContact .. | .deleteContact .. => True
  | _ => False

section Process

variable (s : Auth.Service) (now : Nat) (db : Db) {call : Call}

/-- The other methods do not read the tables. -/
theorem process_withoutCrm (hcall : ¬call.IsCrm) :
    process s now call db.withoutCrm =
      ((process s now call db).1, (process s now call db).2.withoutCrm) := by
  cases call with
  | getAddress | upsertAddress | getPreferences | upsertPreferences | listContacts | createContact
  | updateContact | deleteContact => exact absurd trivial hcall
  | _ => rfl

/-- The methods of the module write nothing else. -/
theorem withoutCrm_process (hcall : call.IsCrm) :
    (process s now call db).2.withoutCrm = db.withoutCrm := by
  cases call with
  | getAddress | upsertAddress | getPreferences | upsertPreferences | listContacts | createContact
  | updateContact | deleteContact => rfl
  | _ => exact hcall.elim

end Process

end Skolva.Api

namespace Skolva.Http

open Effect
open Api (Db)

/-- The routes of the crm module. -/
def Endpoint.isCrm : Endpoint → Bool
  | .getAddress | .putAddress | .getPreferences | .putPreferences => true
  | .listContacts | .createContact | .updateContact | .deleteContact => true
  | _ => false

/-- The request is one to another route. -/
def Request.isOther (request : Request) : Bool := !request.endpoint.isCrm

namespace Server

variable {s : Server}

/-- The searcher looks at users only. -/
def SearchesUsers (s : Server) : Prop :=
  ∀ db text limit, s.search db.withoutCrm text limit = s.search db text limit

/-! ## One request -/

section Request

variable {actor : Uuid} {request : Request} {db : Db}

/-- A handler calls a method of the crm module exactly if its route is one of that module. -/
theorem isCrm_of_call {method : Api.Call} (haction : s.action actor request db = .call method) :
    method.IsCrm ↔ request.endpoint.isCrm = true := by
  have hendpoint := endpoint_of_call haction
  cases method with
  | auth call => cases hendpoint
  | _ =>
      rw [← Option.some.inj hendpoint]
      simp [Api.Call.IsCrm, Endpoint.isCrm]

theorem isCrm_of_auth {call : Auth.Request s.Token}
    (haction : s.action actor request db = .auth call) : request.endpoint.isCrm = false := by
  rw [← endpoint_of_auth haction]
  cases call <;> rfl

theorem action_withoutCrm (hsearch : s.SearchesUsers) :
    s.action actor request db.withoutCrm = s.action actor request db := by
  unfold action
  cases request.endpoint with
  | searchUsers => simp only [hsearch db]
  | _ => rfl

theorem separates (hsearch : s.SearchesUsers) :
    Separates s.credentials s.process Db.withoutCrm Request.isOther where
  seen := by
    intro now request db hother
    have hpass : s.pass now request db.withoutCrm = s.pass now request db := rfl
    unfold process
    rw [hpass]
    cases s.pass now request db with
    | error refusal => rfl
    | ok actor =>
        dsimp only
        rw [action_withoutCrm hsearch]
        cases haction : s.action (s.actorID actor) request db with
        | call method =>
            have hmethod : ¬method.IsCrm := by
              rw [isCrm_of_call haction]
              simpa [Request.isOther] using hother
            simp only [perform, Api.process_withoutCrm s.service now db hmethod]
        | auth call => rfl
        | reject err => rfl
        | page => rfl
  unseen := by
    intro now request db hother
    unfold process
    cases s.pass now request db with
    | error refusal => rfl
    | ok actor =>
        dsimp only
        cases haction : s.action (s.actorID actor) request db with
        | call method =>
            have hmethod : method.IsCrm := by
              rw [isCrm_of_call haction]
              simpa [Request.isOther] using hother
            exact Api.withoutCrm_process s.service now db hmethod
        | auth call =>
            rw [Request.isOther, isCrm_of_auth haction] at hother
            cases hother
        | reject err => rfl
        | page => rfl
  issuesNothing := by
    intro now request db hother claims hissued
    obtain ⟨actor, call, haction, -⟩ := auth_of_issued hissued
    rw [Request.isOther, isCrm_of_auth haction] at hother
    cases hother

end Request

/-! ## Runs -/

/-- The requests of a history to other routes, and when they came. -/
def otherRequests (history : List s.Entry) : List (Nat × Request) :=
  (history.filter fun entry => entry.request.isOther).map fun entry =>
    (entry.instant, entry.request)

/-- The replies to them. -/
def otherReplies (history : List s.Entry) : List (Response s.Token) :=
  (history.filter fun entry => entry.request.isOther).map Effect.Entry.reply

/-- Two runs whose starts differ in contacts, addresses and preferences only, with the same
requests to the routes of the other modules: whatever is asked of the routes of the crm
module, all others reply the same, and leave the same users, factors, roles and groups. -/
theorem crm_noninterference (hsearch : s.SearchesUsers) {start start' last last' : Db}
    {history history' : List s.Entry} (hrun : s.Run start history last)
    (hrun' : s.Run start' history' last') (hstart : start.withoutCrm = start'.withoutCrm)
    (hsame : otherRequests history = otherRequests history') :
    otherReplies history = otherReplies history' ∧ last.withoutCrm = last'.withoutCrm := by
  have hrequests : ∀ entries : List s.Entry,
      (purged Db.withoutCrm Request.isOther entries).map
        (fun entry => (entry.instant, entry.request)) = otherRequests entries := by
    intro entries
    rw [purged, List.map_map]
    rfl
  have hreplies : ∀ entries : List s.Entry,
      (purged Db.withoutCrm Request.isOther entries).map Effect.Entry.reply =
        otherReplies entries := by
    intro entries
    rw [purged, List.map_map]
    rfl
  rw [← hrequests, ← hrequests] at hsame
  obtain ⟨hhistory, hlast⟩ := (separates hsearch).noninterference hrun hrun' hstart hsame
  refine ⟨?_, hlast⟩
  rw [← hreplies, ← hreplies, hhistory]

end Server

namespace Sample

open Auth.Sample (alice service)

/-- A contact of Alice, which only one of two databases has. -/
def secretContact : Crm.ContactPoint where
  id := 11
  userId := alice.id
  contactType := "email"
  label := none
  value := "alice@example.com"
  isPrimary := false
  isPreferred := false
  allowContact := true
  preferredTimeWindow := none
  verifiedAt := none
  note := none
  createdAt := 0
  updatedAt := 0
  deletedAt := none
  createdBy := none
  updatedBy := none

def secretDb : Db := { db with contacts := [secretContact] }

def secretLogin : server.Entry := entryAt loginAt loginRequest secretDb

/-- `GET /users/:id/contacts` by Alice. -/
def contactsRequest : Request :=
  { appointRequest with
    endpoint := .listContacts
    param := fun _ => service.lib.uuidString alice.id
    body := none }

def readContacts : server.Entry := entryAt appointAt contactsRequest secretLogin.after

def secretAppointment : server.Entry := entryAt appointAt appointRequest readContacts.after

theorem handedOut_afterSecretLogin {earlier : List server.Entry} {request : Request}
    (hlogin : secretLogin ∈ earlier)
    (hpresented : server.presented request = [server.readToken "eyJ"]) :
    server.credentials.HandedOut earlier request := by
  intro claims hpresents
  obtain ⟨token, htoken, hparse⟩ := hpresents
  obtain rfl : token = server.readToken "eyJ" := List.mem_singleton.mp (hpresented ▸ htoken)
  have htokens : secretLogin.reply.tokens = [server.readToken "eyJ"] := by decide
  exact ⟨secretLogin, hlogin, _, htokens ▸ List.mem_singleton_self _, hparse⟩

theorem run_secret : server.Run secretDb [secretAppointment, readContacts, secretLogin]
    secretAppointment.after := by
  refine Serial.cons appointAt appointRequest (Serial.cons appointAt contactsRequest
    (Serial.cons loginAt loginRequest Serial.nil ⟨?_, handedOut_login⟩) ⟨?_, ?_⟩) ⟨?_, ?_⟩
  · exact fun _ hentry => absurd hentry (Option.not_mem_none _)
  · intro entry hentry
    obtain rfl := Option.some.inj hentry
    decide
  · exact handedOut_afterSecretLogin (List.mem_singleton_self _) (by decide)
  · intro entry hentry
    obtain rfl := Option.some.inj hentry
    decide
  · exact handedOut_afterSecretLogin (List.mem_cons_of_mem _ (List.mem_singleton_self _)) (by decide)

/-- The contact, and that it is read, makes no difference to the appointment of Bob. -/
theorem noninterference_secret :
    Server.otherReplies [appointment, login] =
      Server.otherReplies [secretAppointment, readContacts, secretLogin] ∧
    appointment.after.withoutCrm = secretAppointment.after.withoutCrm :=
  Server.crm_noninterference (fun _ _ _ => rfl) run_appointment run_secret rfl rfl

end Sample

end Skolva.Http
