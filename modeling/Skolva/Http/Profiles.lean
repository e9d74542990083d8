import Skolva.Http.Changes
import Skolva.Sql.Persistence

/-! # What is read of profiles

The address and the preferences that the API shows are those that were put last.
-/

namespace Skolva.Crm

open Dbexec Effect Sql

/-- The address that a request describes. -/
def AddressRequest.address (req : AddressRequest) (userID : Uuid) (createdAt updatedAt : Nat) :
    Address where
  userId := userID
  company := req.company
  careOf := req.careOf
  street1 := req.street1
  street2 := req.street2
  postalCode := req.postalCode
  city := req.city
  state := req.state
  countryCode := normalCountryCode req.countryCode
  note := req.note
  createdAt := createdAt
  updatedAt := updatedAt

def PreferencesRequest.preferences (req : PreferencesRequest) (userID : Uuid) (updatedAt : Nat) :
    Preferences where
  userId := userID
  preferredContactType := req.preferredContactType
  note := req.note
  updatedAt := updatedAt

namespace ProfileDb

variable (db : ProfileDb)

/-- What `GetAddress` shows. -/
def addressShown (userID : Uuid) : Option Address := (db.addressOf userID).map addressFrom

def preferencesShown (userID : Uuid) : Option Preferences :=
  (db.preferencesOf userID).map preferencesFrom

variable {db} (now : Nat)

/-- The row is written, or nothing is. -/
theorem upsertAddress_cases (params : UpsertAddressParams) :
    (∃ cause, db.upsertAddress now params = (.error cause, db)) ∨
    countryCodeCheck params.countryCode ∧
      ∃ after, db.upsertAddress now params =
          (.ok (addressFrom (params.row now (db.addressOf params.userID))), after) ∧
        after.preferences = db.preferences ∧
        ∀ userID, after.addressShown userID = if params.userID = userID then
          some (addressFrom (params.row now (db.addressOf params.userID)))
          else db.addressShown userID := by
  unfold upsertAddress
  dsimp only
  split_ifs with hcheck hknown
  · refine .inr ⟨hcheck, _, rfl, rfl, fun userID => ?_⟩
    have hfound := @find?_upsert _ _ _ UserAddress.userId db.addresses
      (params.row now (db.addressOf params.userID)) userID
    refine (congrArg (Option.map addressFrom) hfound).trans ?_
    exact apply_ite (Option.map addressFrom) ..
  · exact .inl ⟨_, rfl⟩
  · exact .inl ⟨_, rfl⟩

theorem upsertPreferences_cases (params : UpsertPreferencesParams) :
    (∃ cause, db.upsertPreferences now params = (.error cause, db)) ∨
    ∃ after, db.upsertPreferences now params = (.ok (preferencesFrom (params.row now)), after) ∧
      after.addresses = db.addresses ∧
      ∀ userID, after.preferencesShown userID = if params.userID = userID then
        some (preferencesFrom (params.row now)) else db.preferencesShown userID := by
  unfold upsertPreferences
  dsimp only
  split_ifs with hcheck hknown
  · exact .inl ⟨_, rfl⟩
  · refine .inr ⟨_, rfl, rfl, fun userID => ?_⟩
    have hfound := @find?_upsert _ _ _ UserPreferences.userId db.preferences (params.row now) userID
    refine (congrArg (Option.map preferencesFrom) hfound).trans ?_
    exact apply_ite (Option.map preferencesFrom) ..
  · exact .inl ⟨_, rfl⟩

end ProfileDb

namespace Service

variable (now : Nat) (db : ProfileDb)

/-- `UpsertAddress` writes what the request says, with the time of the first writing. -/
theorem upsertAddress_cases (actorID userID : Uuid) (req : AddressRequest) :
    (∃ err, (upsertAddress actorID userID req).run serveProfile now db = (.error err, db)) ∨
    ∃ address after,
      (upsertAddress actorID userID req).run serveProfile now db = (.ok address, after) ∧
      address = req.address userID
        (((db.addressShown userID).map Address.createdAt).getD now) now ∧
      countryCodeCheck address.countryCode ∧ after.preferences = db.preferences ∧
      ∀ other, after.addressShown other =
        if userID = other then some address else db.addressShown other := by
  rw [run_upsertAddress]
  dsimp only
  split
  · exact .inl ⟨_, rfl⟩
  · rcases @ProfileDb.upsertAddress_cases db now
        (addressParams actorID userID (normalCountryCode req.countryCode) req) with
      ⟨cause, herr⟩ | ⟨hcheck, after, hok, hpreferences, hshown⟩
    · rw [herr]
      exact .inl ⟨_, rfl⟩
    · rw [hok]
      refine .inr ⟨_, after, rfl, ?_, hcheck, hpreferences, hshown⟩
      unfold ProfileDb.addressShown
      rw [Option.map_map]
      rfl

theorem upsertPreferences_cases (actorID userID : Uuid) (req : PreferencesRequest) :
    (∃ err, (upsertPreferences actorID userID req).run serveProfile now db = (.error err, db)) ∨
    ∃ after, (upsertPreferences actorID userID req).run serveProfile now db =
        (.ok (req.preferences userID now), after) ∧
      after.addresses = db.addresses ∧
      ∀ other, after.preferencesShown other =
        if userID = other then some (req.preferences userID now) else db.preferencesShown other := by
  rw [run_upsertPreferences]
  split
  · exact .inl ⟨_, rfl⟩
  · rcases @ProfileDb.upsertPreferences_cases db now
        ⟨userID, req.preferredContactType, req.note, actorNull actorID⟩ with
      ⟨cause, herr⟩ | ⟨after, hok, haddresses, hshown⟩
    · rw [herr]
      exact .inl ⟨_, rfl⟩
    · rw [hok]
      exact .inr ⟨after, rfl, haddresses, hshown⟩

end Service

end Skolva.Crm

namespace Skolva.Api

/-! ## The calls -/

/-- The address that the API shows of a user. -/
def Db.addressShown (db : Db) : Uuid → Option Crm.Address := db.profile.addressShown

def Db.preferencesShown (db : Db) : Uuid → Option Crm.Preferences := db.profile.preferencesShown

def Call.PutsAddress (call : Call) : Prop :=
  ∃ actorID userID req, call = .upsertAddress actorID userID req

def Call.PutsPreferences (call : Call) : Prop :=
  ∃ actorID userID req, call = .upsertPreferences actorID userID req

section Process

variable (s : Auth.Service) (now : Nat) (db : Db) {call : Call}

theorem addresses_process (hcall : ¬call.PutsAddress) :
    (process s now call db).2.addresses = db.addresses := by
  cases call with
  | upsertAddress => exact absurd ⟨_, _, _, rfl⟩ hcall
  | upsertPreferences actorID userID req =>
      simp only [process, runProfile]
      rcases Crm.Service.upsertPreferences_cases now db.profile actorID userID req with
        ⟨err, hrun⟩ | ⟨after, hrun, haddresses, -⟩
      · rw [hrun]
        rfl
      · rw [hrun]
        exact haddresses
  | getAddress userID =>
      simp only [process, runProfile, Crm.Service.run_getAddress]
      rfl
  | getPreferences userID =>
      simp only [process, runProfile, Crm.Service.run_getPreferences]
      rfl
  | _ => rfl

theorem preferences_process (hcall : ¬call.PutsPreferences) :
    (process s now call db).2.preferences = db.preferences := by
  cases call with
  | upsertPreferences => exact absurd ⟨_, _, _, rfl⟩ hcall
  | upsertAddress actorID userID req =>
      simp only [process, runProfile]
      rcases Crm.Service.upsertAddress_cases now db.profile actorID userID req with
        ⟨err, hrun⟩ | ⟨address, after, hrun, -, -, hpreferences, -⟩
      · rw [hrun]
        rfl
      · rw [hrun]
        exact hpreferences
  | getAddress userID =>
      simp only [process, runProfile, Crm.Service.run_getAddress]
      rfl
  | getPreferences userID =>
      simp only [process, runProfile, Crm.Service.run_getPreferences]
      rfl
  | _ => rfl

/-- A call that puts an address shows it from now on, or it changes nothing. -/
theorem process_upsertAddress (actorID userID : Uuid) (req : Crm.AddressRequest) :
    (∃ err, process s now (.upsertAddress actorID userID req) db = (.error (.crm err), db)) ∨
    ∃ address after,
      process s now (.upsertAddress actorID userID req) db = (.ok (.address address), after) ∧
      address = req.address userID
        (((db.addressShown userID).map Crm.Address.createdAt).getD now) now ∧
      Crm.countryCodeCheck address.countryCode ∧
      ∀ other, after.addressShown other =
        if userID = other then some address else db.addressShown other := by
  simp only [process, runProfile]
  rcases Crm.Service.upsertAddress_cases now db.profile actorID userID req with
    ⟨err, hrun⟩ | ⟨address, after, hrun, hwritten, hcheck, -, hshown⟩
  · rw [hrun]
    exact .inl ⟨err, rfl⟩
  · rw [hrun]
    exact .inr ⟨address, _, rfl, hwritten, hcheck, hshown⟩

theorem process_upsertPreferences (actorID userID : Uuid) (req : Crm.PreferencesRequest) :
    (∃ err, process s now (.upsertPreferences actorID userID req) db = (.error (.crm err), db)) ∨
    ∃ after,
      process s now (.upsertPreferences actorID userID req) db =
        (.ok (.preferences (req.preferences userID now)), after) ∧
      ∀ other, after.preferencesShown other =
        if userID = other then some (req.preferences userID now)
        else db.preferencesShown other := by
  simp only [process, runProfile]
  rcases Crm.Service.upsertPreferences_cases now db.profile actorID userID req with
    ⟨err, hrun⟩ | ⟨after, hrun, -, hshown⟩
  · rw [hrun]
    exact .inl ⟨err, rfl⟩
  · rw [hrun]
    exact .inr ⟨_, rfl, hshown⟩

end Process

end Skolva.Api

namespace Skolva.Http

open Effect
open Api (Db)

namespace Server

variable {s : Server}

/-! ## What a request writes -/

/-- The user and the address of a `PUT` that was accepted. -/
def putAddress (entry : s.Entry) : Option (Uuid × Crm.Address) :=
  match entry.request.endpoint, entry.reply with
  | .putAddress, .api (.ok (.address address)) => some (address.userId, address)
  | _, _ => none

def putPreferences (entry : s.Entry) : Option (Uuid × Crm.Preferences) :=
  match entry.request.endpoint, entry.reply with
  | .putPreferences, .api (.ok (.preferences preferences)) =>
      some (preferences.userId, preferences)
  | _, _ => none

section Step

variable {now : Nat} {request : Request} {db : Db}

/-- A request makes a call of the modules without sessions, or its reply shows nothing of
profiles, and it writes none. -/
theorem process_cases (s : Server) (now : Nat) (request : Request) (db : Db) :
    (∃ actor method, s.action actor request db = .call method ∧
      s.process now request db = (.api (Api.process s.service now method db).1,
        (Api.process s.service now method db).2)) ∨
    (∀ answer, (s.process now request db).1 ≠ .api (.ok answer)) ∧
      (s.process now request db).2.addresses = db.addresses ∧
      (s.process now request db).2.preferences = db.preferences := by
  unfold process
  cases s.pass now request db with
  | error refusal => exact .inr ⟨by simp, rfl, rfl⟩
  | ok passed =>
      dsimp only
      cases haction : s.action (s.actorID passed) request db with
      | call method => exact .inl ⟨_, method, haction, rfl⟩
      | auth call => exact .inr ⟨by simp [perform], rfl, rfl⟩
      | reject err => exact .inr ⟨by simp [perform], rfl, rfl⟩
      | page => exact .inr ⟨by simp [perform], rfl, rfl⟩

theorem putAddress_of_not_ok {entry : s.Entry} (hnot : ∀ answer, entry.reply ≠ .api (.ok answer)) :
    putAddress entry = none := by
  unfold putAddress
  split
  next hreply => exact absurd hreply (hnot _)
  next => rfl

theorem putPreferences_of_not_ok {entry : s.Entry}
    (hnot : ∀ answer, entry.reply ≠ .api (.ok answer)) : putPreferences entry = none := by
  unfold putPreferences
  split
  next hreply => exact absurd hreply (hnot _)
  next => rfl

theorem putsAddress_iff {method : Api.Call} :
    callEndpoint method = some .putAddress ↔ method.PutsAddress := by
  cases method <;> simp [callEndpoint, Api.Call.PutsAddress]

theorem putsPreferences_iff {method : Api.Call} :
    callEndpoint method = some .putPreferences ↔ method.PutsPreferences := by
  cases method <;> simp [callEndpoint, Api.Call.PutsPreferences]

theorem putAddress_of_endpoint {entry : s.Entry} (hother : entry.request.endpoint ≠ .putAddress) :
    putAddress entry = none := by
  unfold putAddress
  split
  next hendpoint _ => exact absurd hendpoint hother
  next => rfl

theorem putPreferences_of_endpoint {entry : s.Entry}
    (hother : entry.request.endpoint ≠ .putPreferences) : putPreferences entry = none := by
  unfold putPreferences
  split
  next hendpoint _ => exact absurd hendpoint hother
  next => rfl

theorem addressShown_eq {before after : Db} (hsame : after.addresses = before.addresses) :
    after.addressShown = before.addressShown := by
  funext userID
  unfold Db.addressShown Db.profile Crm.ProfileDb.addressShown Crm.ProfileDb.addressOf
  rw [hsame]

theorem preferencesShown_eq {before after : Db} (hsame : after.preferences = before.preferences) :
    after.preferencesShown = before.preferencesShown := by
  funext userID
  unfold Db.preferencesShown Db.profile Crm.ProfileDb.preferencesShown Crm.ProfileDb.preferencesOf
  rw [hsame]

variable (s now request db)

/-- The entry of a request in this state. -/
def entryOf : s.Entry :=
  ⟨db, now, request, (s.process now request db).1, (s.process now request db).2⟩

variable (userID : Uuid)

/-- After a request, the address is the one it has put, or the one before. -/
theorem addressShown_process : (s.process now request db).2.addressShown userID =
    (Serial.written putAddress (s.entryOf now request db) userID).or (db.addressShown userID) := by
  rcases process_cases s now request db with ⟨actor, method, haction, hprocess⟩ | ⟨hreply, hsame, -⟩
  · have hendpoint := endpoint_of_call haction
    by_cases hputs : method.PutsAddress
    · have hput : request.endpoint = .putAddress :=
        Option.some.inj (hendpoint.symm.trans (putsAddress_iff.mpr hputs))
      obtain ⟨actorID, owner, req, rfl⟩ := hputs
      rcases Api.process_upsertAddress s.service now db actorID owner req with
        ⟨err, hcall⟩ | ⟨address, after, hcall, hwritten, -, hshown⟩
      · simp [entryOf, hprocess, hcall, Serial.written, putAddress]
      · have howner : address.userId = owner := by rw [hwritten, Crm.AddressRequest.address]
        simp only [entryOf, hprocess, hcall, hshown, Serial.written, putAddress, hput,
          Option.bind_some, howner]
        split <;> rfl
    · have hother : (s.entryOf now request db).request.endpoint ≠ .putAddress :=
        fun hput => hputs (putsAddress_iff.mp (hendpoint.trans (congrArg some hput)))
      have hnone := putAddress_of_endpoint hother
      rw [Serial.written, hnone, Option.bind_none, Option.none_or, hprocess,
        addressShown_eq (Api.addresses_process s.service now db hputs)]
  · have hnone := @putAddress_of_not_ok s (s.entryOf now request db) hreply
    rw [Serial.written, hnone, Option.bind_none, Option.none_or, addressShown_eq hsame]

theorem preferencesShown_process : (s.process now request db).2.preferencesShown userID =
    (Serial.written putPreferences (s.entryOf now request db) userID).or
      (db.preferencesShown userID) := by
  rcases process_cases s now request db with ⟨actor, method, haction, hprocess⟩ | ⟨hreply, -, hsame⟩
  · have hendpoint := endpoint_of_call haction
    by_cases hputs : method.PutsPreferences
    · have hput : request.endpoint = .putPreferences :=
        Option.some.inj (hendpoint.symm.trans (putsPreferences_iff.mpr hputs))
      obtain ⟨actorID, owner, req, rfl⟩ := hputs
      rcases Api.process_upsertPreferences s.service now db actorID owner req with
        ⟨err, hcall⟩ | ⟨after, hcall, hshown⟩
      · simp [entryOf, hprocess, hcall, Serial.written, putPreferences]
      · simp only [entryOf, hprocess, hcall, hshown, Serial.written, putPreferences, hput,
          Option.bind_some, Crm.PreferencesRequest.preferences]
        split <;> rfl
    · have hother : (s.entryOf now request db).request.endpoint ≠ .putPreferences :=
        fun hput => hputs (putsPreferences_iff.mp (hendpoint.trans (congrArg some hput)))
      have hnone := putPreferences_of_endpoint hother
      rw [Serial.written, hnone, Option.bind_none, Option.none_or, hprocess,
        preferencesShown_eq (Api.preferences_process s.service now db hputs)]
  · have hnone := @putPreferences_of_not_ok s (s.entryOf now request db) hreply
    rw [Serial.written, hnone, Option.bind_none, Option.none_or, preferencesShown_eq hsame]

end Step

/-! ## Runs -/

/-- The reply to a `GET` of what is there, or not. -/
def shownReply {α : Type} (what : String) (answer : α → Api.Answer s.Token) :
    Option α → Response s.Token
  | none => .api (.error (.crm (.notFound what)))
  | some value => .api (.ok (answer value))

section Get

variable {now : Nat} {request : Request} {db : Db} {passed : Option Auth.Actor} {userID : Uuid}

theorem process_getAddress (hpass : s.pass now request db = .ok passed)
    (huser : s.param request "id" = some userID) (hendpoint : request.endpoint = .getAddress) :
    (s.process now request db).1 = shownReply "address" .address (db.addressShown userID) := by
  have haction : s.action (s.actorID passed) request db = .call (.getAddress userID) := by
    unfold action
    rw [hendpoint]
    dsimp only
    rw [huser]
    rfl
  unfold process
  rw [hpass]
  dsimp only
  rw [haction]
  simp only [perform, Api.process, Api.runProfile, Crm.Service.run_getAddress, Db.addressShown,
    Crm.ProfileDb.addressShown]
  cases db.profile.addressOf userID <;> rfl

theorem process_getPreferences (hpass : s.pass now request db = .ok passed)
    (huser : s.param request "id" = some userID) (hendpoint : request.endpoint = .getPreferences) :
    (s.process now request db).1 =
      shownReply "preferences" .preferences (db.preferencesShown userID) := by
  have haction : s.action (s.actorID passed) request db = .call (.getPreferences userID) := by
    unfold action
    rw [hendpoint]
    dsimp only
    rw [huser]
    rfl
  unfold process
  rw [hpass]
  dsimp only
  rw [haction]
  simp only [perform, Api.process, Api.runProfile, Crm.Service.run_getPreferences,
    Db.preferencesShown, Crm.ProfileDb.preferencesShown]
  cases db.profile.preferencesOf userID <;> rfl

end Get

section Put

variable {actor : Uuid} {request : Request} {db : Db}

/-- A handler that calls after it parsed the path has parsed it. -/
theorem call_of_parsed {id : Option Uuid} {invalid : Api.Err} {next : Uuid → Action s.Token}
    {method : Api.Call} (haction : Action.parsed id invalid next = .call method) :
    ∃ value, id = some value ∧ next value = .call method := by
  cases id with
  | none => cases haction
  | some value => exact ⟨value, rfl, haction⟩

theorem call_of_bound {α : Type} {body : Option α} {invalid : Api.Err}
    {next : α → Action s.Token} {method : Api.Call}
    (haction : Action.bound body invalid next = .call method) :
    ∃ value, body = some value ∧ next value = .call method := by
  cases body with
  | none => cases haction
  | some value => exact ⟨value, rfl, haction⟩

/-- The arguments of the call are the path and the body of the request. -/
theorem args_of_putAddress {actorID userID : Uuid} {req : Crm.AddressRequest}
    (haction : s.action actor request db = .call (.upsertAddress actorID userID req)) :
    s.param request "id" = some userID ∧ req ∈ request.body.bind bindAddress := by
  have hendpoint : Endpoint.putAddress = request.endpoint :=
    Option.some.inj (endpoint_of_call haction)
  unfold action at haction
  rw [← hendpoint] at haction
  obtain ⟨id, hid, hnext⟩ := call_of_parsed haction
  obtain ⟨body, hbody, hcall⟩ := call_of_bound hnext
  cases hcall
  exact ⟨hid, hbody⟩

theorem args_of_putPreferences {actorID userID : Uuid} {req : Crm.PreferencesRequest}
    (haction : s.action actor request db = .call (.upsertPreferences actorID userID req)) :
    s.param request "id" = some userID ∧ req ∈ request.body.bind bindPreferences := by
  have hendpoint : Endpoint.putPreferences = request.endpoint :=
    Option.some.inj (endpoint_of_call haction)
  unfold action at haction
  rw [← hendpoint] at haction
  obtain ⟨id, hid, hnext⟩ := call_of_parsed haction
  obtain ⟨body, hbody, hcall⟩ := call_of_bound hnext
  cases hcall
  exact ⟨hid, hbody⟩

variable {now : Nat} {userID : Uuid}

theorem endpoint_of_putAddress {entry : s.Entry} {write : Uuid × Crm.Address}
    (hput : putAddress entry = some write) : entry.request.endpoint = .putAddress := by
  by_contra hother
  rw [putAddress_of_endpoint hother] at hput
  cases hput

theorem endpoint_of_putPreferences {entry : s.Entry} {write : Uuid × Crm.Preferences}
    (hput : putPreferences entry = some write) : entry.request.endpoint = .putPreferences := by
  by_contra hother
  rw [putPreferences_of_endpoint hother] at hput
  cases hput

/-- What a `PUT` that is accepted writes is what its path and its body say. -/
theorem stored_of_putAddress {address : Crm.Address}
    (hput : putAddress (s.entryOf now request db) = some (userID, address)) :
    s.param request "id" = some userID ∧ ∃ req ∈ request.body.bind bindAddress,
      address = req.address userID
        (((db.addressShown userID).map Crm.Address.createdAt).getD now) now ∧
      Crm.countryCodeCheck address.countryCode := by
  have hendpoint := endpoint_of_putAddress hput
  rcases process_cases s now request db with ⟨actor, method, haction, hprocess⟩ | ⟨hreply, -⟩
  · obtain ⟨actorID, owner, req, rfl⟩ : method.PutsAddress :=
      putsAddress_iff.mp ((endpoint_of_call haction).trans (congrArg some hendpoint))
    obtain ⟨huser, hreq⟩ := args_of_putAddress haction
    rcases Api.process_upsertAddress s.service now db actorID owner req with
      ⟨err, hcall⟩ | ⟨written, after, hcall, hwritten, hcheck, -⟩
    · simp [entryOf, hprocess, hcall, putAddress] at hput
    · -- The row is the one of the path, and not one that the body could name.
      have howner : written.userId = owner := by rw [hwritten, Crm.AddressRequest.address]
      have hendpoint' : request.endpoint = .putAddress := hendpoint
      simp only [entryOf, hprocess, hcall, putAddress, hendpoint', Option.some.injEq,
        Prod.mk.injEq, howner] at hput
      obtain ⟨rfl, rfl⟩ := hput
      exact ⟨huser, req, hreq, hwritten, hcheck⟩
  · -- A request that comes to no call answers nothing that would be an address.
    rw [@putAddress_of_not_ok s (s.entryOf now request db) hreply] at hput
    cases hput

theorem stored_of_putPreferences {preferences : Crm.Preferences}
    (hput : putPreferences (s.entryOf now request db) = some (userID, preferences)) :
    s.param request "id" = some userID ∧ ∃ req ∈ request.body.bind bindPreferences,
      preferences = req.preferences userID now := by
  have hendpoint := endpoint_of_putPreferences hput
  rcases process_cases s now request db with ⟨actor, method, haction, hprocess⟩ | ⟨hreply, -⟩
  · obtain ⟨actorID, owner, req, rfl⟩ : method.PutsPreferences :=
      putsPreferences_iff.mp ((endpoint_of_call haction).trans (congrArg some hendpoint))
    obtain ⟨huser, hreq⟩ := args_of_putPreferences haction
    rcases Api.process_upsertPreferences s.service now db actorID owner req with
      ⟨err, hcall⟩ | ⟨after, hcall, -⟩
    · simp [entryOf, hprocess, hcall, putPreferences] at hput
    · have hendpoint' : request.endpoint = .putPreferences := hendpoint
      simp only [entryOf, hprocess, hcall, putPreferences, hendpoint', Option.some.injEq,
        Prod.mk.injEq, Crm.PreferencesRequest.preferences] at hput
      obtain ⟨rfl, rfl⟩ := hput
      exact ⟨huser, req, hreq, rfl⟩
  · rw [@putPreferences_of_not_ok s (s.entryOf now request db) hreply] at hput
    cases hput

end Put

section Run

variable {start last : Db} {history : List s.Entry}

theorem address_latest (hrun : s.Run start history last) (userID : Uuid) :
    last.addressShown userID =
      (Serial.latest putAddress history userID).or (start.addressShown userID) :=
  Serial.cell_eq_latest hrun (fun now request before => addressShown_process s now request before)
    userID

theorem preferences_latest (hrun : s.Run start history last) (userID : Uuid) :
    last.preferencesShown userID =
      (Serial.latest putPreferences history userID).or (start.preferencesShown userID) :=
  Serial.cell_eq_latest hrun
    (fun now request before => preferencesShown_process s now request before) userID

/-- Whoever may read the profile of a user is shown the address and the preferences that were
put for this user last, by anybody, and otherwise those that were there from the start. -/
theorem profile_last_put (hrun : s.Run start history last) {now : Nat} {request : Request}
    {passed : Option Auth.Actor} {userID : Uuid} (hpass : s.pass now request last = .ok passed)
    (huser : s.param request "id" = some userID) :
    (request.endpoint = .getAddress → (s.process now request last).1 =
      shownReply "address" .address
        ((Serial.latest putAddress history userID).or (start.addressShown userID))) ∧
    (request.endpoint = .getPreferences → (s.process now request last).1 =
      shownReply "preferences" .preferences
        ((Serial.latest putPreferences history userID).or (start.preferencesShown userID))) := by
  constructor
  · intro hendpoint
    rw [process_getAddress hpass huser hendpoint, address_latest hrun]
  · intro hendpoint
    rw [process_getPreferences hpass huser hendpoint, preferences_latest hrun]

/-- Each `PUT` that is accepted in a run has stored, for the user of its path, what its body
says: the texts as they are, the country code trimmed and in capitals, the instant, and for an
address the instant of creation that the address before it had, if there was one. -/
theorem put_stores (hrun : s.Run start history last) {later earlier : List s.Entry}
    {entry : s.Entry} (hsplit : history = later ++ entry :: earlier) (userID : Uuid) :
    (∀ address, putAddress entry = some (userID, address) →
      s.param entry.request "id" = some userID ∧
      ∃ req ∈ entry.request.body.bind bindAddress,
        address = req.address userID
          ((((Serial.latest putAddress earlier userID).or (start.addressShown userID)).map
            Crm.Address.createdAt).getD entry.instant) entry.instant ∧
        Crm.countryCodeCheck address.countryCode) ∧
    ∀ preferences, putPreferences entry = some (userID, preferences) →
      s.param entry.request "id" = some userID ∧
      ∃ req ∈ entry.request.body.bind bindPreferences,
        preferences = req.preferences userID entry.instant := by
  obtain ⟨hearlier, -, hprocess⟩ := Serial.entry hrun hsplit
  have hentry : entry = s.entryOf entry.instant entry.request entry.before := by
    rw [entryOf, hprocess]
  constructor
  · intro address hput
    rw [hentry] at hput
    have hstored := stored_of_putAddress hput
    rwa [address_latest hearlier] at hstored
  · intro preferences hput
    rw [hentry] at hput
    exact stored_of_putPreferences hput

end Run

end Server

namespace Sample

open Auth.Sample (service)

/-- `PUT /users/:id/preferences` for Bob, by Alice. -/
def preferencesRequest : Request :=
  { appointRequest with
    endpoint := .putPreferences
    body := some (object [("preferred_contact_type", "email"), ("note", "abends")]) }

def preferencesPut : server.Entry := entryAt appointAt preferencesRequest login.after

theorem run_preferencesPut : server.Run db [preferencesPut, login] preferencesPut.after :=
  Serial.cons appointAt preferencesRequest run_login
    ⟨clock_afterLogin, handedOut_afterLogin (by decide)⟩

/-- What Alice has put is stored. -/
theorem stores_preferencesPut :
    Server.putPreferences preferencesPut =
        some (bob.id, ⟨bob.id, some "email", some "abends", appointAt⟩) ∧
      server.param preferencesRequest "id" = some bob.id ∧
      ∃ req ∈ preferencesRequest.body.bind bindPreferences,
        (⟨bob.id, some "email", some "abends", appointAt⟩ : Crm.Preferences) =
          req.preferences bob.id appointAt := by
  have hput : Server.putPreferences preferencesPut =
      some (bob.id, ⟨bob.id, some "email", some "abends", appointAt⟩) := by decide
  exact ⟨hput,
    (Server.put_stores run_preferencesPut (List.nil_append _).symm bob.id).2 _ hput⟩

/-- `GET /users/:id/preferences` for Bob, by Alice. -/
def preferencesQuery : Request := { preferencesRequest with endpoint := .getPreferences, body := none }

theorem shown_preferences :
    (server.process appointAt preferencesQuery preferencesPut.after).1 =
      Server.shownReply "preferences" .preferences
        ((Serial.latest Server.putPreferences [preferencesPut, login] bob.id).or
          (db.preferencesShown bob.id)) := by
  have hpass : server.pass appointAt preferencesQuery preferencesPut.after =
      .ok (some (Server.actorOf aliceClaims)) := rfl
  have huser : server.param preferencesQuery "id" = some bob.id :=
    service.lib.uuidParse_uuidString bob.id
  exact (Server.profile_last_put run_preferencesPut hpass huser).2 rfl

end Sample

end Skolva.Http
