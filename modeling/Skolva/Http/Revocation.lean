import Skolva.Http.Audited
import Skolva.Http.Calls
import Skolva.Http.Factors
import Skolva.Http.Records

/-! # When a right ends

Nothing takes a token back, so what a token lets its bearer do lasts until it runs out. It is
handed out for what the tables say, so it does not last longer.
-/

namespace Skolva.Auth

open Effect

/-- The user has no live row that is active. -/
def Db.SwitchedOff (db : Db) (u : Uuid) : Prop :=
  ∀ user ∈ db.users, user.id = u → user.deletedAt = none → user.isActive = false

instance (db : Db) (u : Uuid) : Decidable (db.SwitchedOff u) :=
  inferInstanceAs (Decidable (∀ user ∈ db.users, _))

variable {s : Service} {db : Db} {u : Uuid}

theorem not_passwordChecked_of_switchedOff (hoff : db.SwitchedOff u) {email : String}
    {password : Bytes} : ¬s.PasswordChecked db email password u := by
  rintro ⟨user, huser, hid, hactive, -⟩
  have hfound := List.find?_some huser
  simp only [decide_eq_true_eq] at hfound
  have hinactive := hoff user (List.mem_of_find?_eq_some huser) hid hfound.2.1
  exact Bool.false_ne_true (hinactive.symm.trans hactive)

theorem switchedOff_of_deleted (hdeleted : db.liveUser u = none) : db.SwitchedOff u := by
  intro user huser hid hlive
  have hnone := List.find?_eq_none.mp hdeleted user huser
  simp [hid, hlive] at hnone

end Skolva.Auth

namespace Skolva.Http

open Effect
open Auth (Actor Claims)
open Api (Db)

namespace Server

variable {s : Server}

/-! ## Deleted users -/

section Deleted

variable {now : Nat} {request : Request} {db : Db} {u : Uuid}

/-- The user has been deleted. -/
structure Deleted (u : Uuid) (db : Db) : Prop where
  known : db.auth.Known u
  deleted : db.auth.liveUser u = none

/-- Nothing brings a deleted user back. -/
theorem deleted_process (s : Server) (now : Nat) (request : Request) (hdeleted : Deleted u db) :
    Deleted u (s.process now request db).2 := by
  refine ⟨known_process now request hdeleted.known, ?_⟩
  rw [state_process]
  cases s.callOf now request db with
  | none => exact hdeleted.deleted
  | some call =>
      by_cases hauth : call.IsAuth
      · cases call with
        | auth call =>
            have hkept := Program.run_invariant (Auth.serve s.service.lib) now
              (motive := fun store => store.Known u ∧ store.liveUser u = none) (s.service.call call)
              (fun op store hstore => ⟨Auth.Db.known_serve s.service.lib now op hstore.1,
                Auth.Db.liveUser_serve_of_none s.service.lib now op hstore.1 hstore.2⟩)
              ⟨hdeleted.known, hdeleted.deleted⟩
            exact hkept.2
        | _ => exact hauth.elim
      · obtain ⟨userRoles, hsame⟩ := Api.auth_process s.service now db hauth
        simp only [stateAfter, hsame]
        exact hdeleted.deleted

theorem SignsIn.not_deleted {entry : s.Entry} (hsigns : s.SignsIn u entry) :
    ¬Deleted u entry.before := by
  intro hdeleted
  obtain ⟨actor, call, -, hpassword | ⟨-, hlive⟩⟩ := hsigns
  · cases call with
    | login draw body =>
        cases body with
        | none => exact hpassword.elim
        | some req =>
            exact Auth.not_passwordChecked_of_switchedOff
              (Auth.switchedOff_of_deleted hdeleted.deleted) hpassword.1
    | _ => exact hpassword.elim
  · rw [hdeleted.deleted] at hlive
    cases hlive

end Deleted

/-! ## Runs -/

section Run

variable {start last : Db} {history later earlier : List s.Entry} {entry : s.Entry} {now : Nat}
  {request : Request} {u : Uuid} {actor : Actor}

/-- What is in the history and later than an entry comes after it. -/
theorem Run.mem_later (hrun : s.Run start history last) (hsplit : history = later ++ entry :: earlier)
    {old : s.Entry} (hold : old ∈ history) (hlater : entry.instant < old.instant) :
    old ∈ later := by
  rw [hsplit, List.mem_append, List.mem_cons] at hold
  rcases hold with hold | rfl | hold
  · exact hold
  · exact absurd hlater (Nat.lt_irrefl _)
  · have hle : old.instant ≤ entry.instant :=
      Serial.instant_le hrun (fun _ _ _ => Credentials.Run.clock) hsplit old hold
    omega

/-- Who is let in as a user bears a token that was handed out to him less than its lifetime
ago. -/
theorem Run.minted_of_pass (hrun : s.Run start history last) (hclock : ClockForward history now)
    (hhandedOut : s.credentials.HandedOut history request)
    (hpass : s.pass now request last = .ok (some actor)) (huser : s.actorID (some actor) = u) :
    ∃ later mint earlier claims, history = later ++ mint :: earlier ∧ actor = actorOf claims ∧
      s.GrantsTo u claims mint ∧ s.SignsIn u mint ∧
      (now : Int) < mint.instant + s.service.tm.accessTTL := by
  obtain ⟨claims, hbears, rfl⟩ := bears_of_pass hpass
  obtain ⟨later, mint, earlier, owner, hsplit, hminted, hgrants⟩ := hrun.granted hhandedOut hbears
  obtain rfl : owner = u := hgrants.actorID.symm.trans huser
  have hmint : mint ∈ history := hsplit ▸ List.mem_append_right _ List.mem_cons_self
  have hbefore : mint.instant ≤ now := Credentials.Run.instant_le hrun hclock hmint
  obtain ⟨text, -, -, -, hvalid⟩ := hbears
  have hround : ((mint.instant : Int) + s.service.tm.accessTTL) / Time.second * Time.second ≤
      mint.instant + s.service.tm.accessTTL := Int.ediv_mul_le _ (by decide)
  exact ⟨later, mint, earlier, claims, hsplit, rfl, hgrants, hgrants.signsIn hminted.processed,
    Int.lt_of_lt_of_le ((hgrants.validAt_iff hbefore).mp hvalid) hround⟩

/-- Once a user has been deleted for the lifetime of a token, nobody is let in as this user. -/
theorem locked_out_of_deleted (hrun : s.Run start history last)
    (hsplit : history = later ++ entry :: earlier) (hdeleted : Deleted u entry.after)
    (hclock : ClockForward history now) (hhandedOut : s.credentials.HandedOut history request)
    (hlate : entry.instant + s.service.tm.accessTTL ≤ now)
    (hpass : s.pass now request last = .ok (some actor)) : s.actorID (some actor) ≠ u := by
  intro huser
  obtain ⟨_, mint, _, _, hmint, -, -, hsigns, hinTime⟩ :=
    hrun.minted_of_pass hclock hhandedOut hpass huser
  have hmem : mint ∈ history := hmint ▸ List.mem_append_right _ List.mem_cons_self
  have hlater : mint ∈ later := hrun.mem_later hsplit hmem (by omega)
  obtain ⟨-, hfound⟩ := Serial.onwards (motive := Deleted u) hrun hsplit hdeleted
    fun now request _ => deleted_process s now request
  exact hsigns.not_deleted (hfound mint hlater)

/-- Once a user has been switched off for the lifetime of a token and of a pending one, and
nobody has switched him on again, nobody is let in as this user. -/
theorem locked_out_of_switchedOff (hrun : s.Run start history last)
    (hsplit : history = later ++ entry :: earlier)
    (hoff : ∀ old ∈ later, old.before.auth.SwitchedOff u)
    (hclock : ClockForward history now) (hhandedOut : s.credentials.HandedOut history request)
    (hlate : entry.instant + 5 * Time.minute + s.service.tm.accessTTL ≤ now)
    (hpass : s.pass now request last = .ok (some actor)) : s.actorID (some actor) ≠ u := by
  intro huser
  obtain ⟨claims, hbears, rfl⟩ := bears_of_pass hpass
  obtain ⟨login, hlogin, ⟨_, _, req, -, hchecked⟩, -, hsoon⟩ :=
    password_of_bearer hrun hclock hhandedOut hbears huser
  have hlater : login ∈ later := hrun.mem_later hsplit hlogin (by omega)
  exact Auth.not_passwordChecked_of_switchedOff (hoff login hlater) hchecked

/-- Once a user has lacked a permission for the lifetime of a token, nobody passes a route that
asks for it as this user. -/
theorem refused_of_denied (hrun : s.Run start history last)
    (hsplit : history = later ++ entry :: earlier) {permission : String}
    (hdenied : ∀ old ∈ later, ¬old.before.auth.Permits u permission)
    (hclock : ClockForward history now) (hhandedOut : s.credentials.HandedOut history request)
    (hguard : request.endpoint.guard = .requirePermission permission)
    (hlate : entry.instant + s.service.tm.accessTTL ≤ now)
    (hpass : s.pass now request last = .ok (some actor)) : s.actorID (some actor) ≠ u := by
  intro huser
  obtain ⟨claims, -, hpermit, hactor⟩ := (pass_permission_iff hguard).mp hpass
  obtain ⟨_, mint, _, granted, hmint, hsame, hgrants, -, hinTime⟩ :=
    hrun.minted_of_pass hclock hhandedOut hpass huser
  have hmem : mint ∈ history := hmint ▸ List.mem_append_right _ List.mem_cons_self
  have hlater : mint ∈ later := hrun.mem_later hsplit hmem (by omega)
  refine hdenied mint hlater (hgrants.permit_iff.mp ?_)
  rw [← hasPermission_actorOf, ← hsame, Option.some.inj hactor]
  exact hasPermission_actorOf.mpr hpermit

end Run

end Server

namespace Sample

open Auth.Sample (service alice)

/-- Bob is an administrator too. -/
def twoAdmins : Db :=
  { db with
    auth := { authDb with userRoles := [(alice.id, Auth.adminRole), (bob.id, Auth.adminRole)] } }

def lateAt : Nat := 2300 * Time.second

/-- The claims of the token that Bob gets, and those of the second one that Alice gets. -/
def bobClaims : Claims := service.accessClaims loginAt twoAdmins.auth 7 bob.id bob.email

def freshClaims : Claims := service.accessClaims lateAt twoAdmins.auth 7 alice.id alice.email

@[reducible] def twoTokens : Server :=
  { server with
    readToken := fun text =>
      if text = "bob" then (service.tm.secret, bobClaims)
      else if text = "fresh" then (service.tm.secret, freshClaims)
      else server.readToken text }

def twoTokensAt (now : Nat) (request : Request) (before : Db) : twoTokens.Entry :=
  ⟨before, now, request, (twoTokens.process now request before).1,
    (twoTokens.process now request before).2⟩

def aliceIn : twoTokens.Entry := twoTokensAt loginAt loginRequest twoAdmins

def bobLogin : Request :=
  { loginRequest with body := some (object [("email", bob.email), ("password", "correct horse")]) }

def bobIn : twoTokens.Entry := twoTokensAt loginAt bobLogin aliceIn.after

theorem handedOut_by {history : List twoTokens.Entry} {mint : twoTokens.Entry} {request : Request}
    {text : String} (hmint : mint ∈ history)
    (htokens : mint.reply.tokens = [twoTokens.readToken text])
    (hpresented : twoTokens.presented request = [twoTokens.readToken text]) :
    twoTokens.credentials.HandedOut history request := by
  intro claims hpresents
  obtain ⟨token, htoken, hparse⟩ := hpresents
  obtain rfl : token = twoTokens.readToken text := List.mem_singleton.mp (hpresented ▸ htoken)
  exact ⟨mint, hmint, _, htokens ▸ List.mem_singleton_self _, hparse⟩

theorem handedOut_nothing {history : List twoTokens.Entry} {request : Request}
    (hpresented : twoTokens.presented request = []) :
    twoTokens.credentials.HandedOut history request := by
  intro claims hpresents
  obtain ⟨token, htoken, -⟩ := hpresents
  exact absurd (hpresented ▸ htoken) List.not_mem_nil

theorem tokens_aliceIn : aliceIn.reply.tokens = [twoTokens.readToken "eyJ"] := by decide

theorem tokens_bobIn : bobIn.reply.tokens = [twoTokens.readToken "bob"] := by decide

/-! Alice takes something from Bob, and signs in again after a while. -/

section Revoking

variable (revoking : Request)

def revoked : twoTokens.Entry := twoTokensAt appointAt revoking bobIn.after

def aliceAgain : twoTokens.Entry := twoTokensAt lateAt loginRequest (revoked revoking).after

def afterwards : List twoTokens.Entry := [aliceAgain revoking, revoked revoking, bobIn, aliceIn]

theorem split_afterwards :
    afterwards revoking = [aliceAgain revoking] ++ revoked revoking :: [bobIn, aliceIn] := rfl

variable {revoking}

theorem run_afterwards (hpresented : twoTokens.presented revoking = [twoTokens.readToken "eyJ"]) :
    twoTokens.Run twoAdmins (afterwards revoking) (aliceAgain revoking).after := by
  have halice : twoTokens.Run twoAdmins [aliceIn] aliceIn.after :=
    Serial.cons loginAt loginRequest Serial.nil
      ⟨fun _ hentry => absurd hentry (Option.not_mem_none _), handedOut_nothing (by decide)⟩
  have hbob : twoTokens.Run twoAdmins [bobIn, aliceIn] bobIn.after := by
    refine Serial.cons loginAt bobLogin halice ⟨fun entry hentry => ?_,
      handedOut_nothing (by decide)⟩
    obtain rfl := Option.some.inj hentry
    decide
  have hrevoked : twoTokens.Run twoAdmins [revoked revoking, bobIn, aliceIn]
      (revoked revoking).after := by
    have hmint : aliceIn ∈ [bobIn, aliceIn] := by simp
    refine Serial.cons appointAt revoking hbob ⟨fun entry hentry => ?_,
      handedOut_by hmint tokens_aliceIn hpresented⟩
    obtain rfl := Option.some.inj hentry
    decide
  refine Serial.cons lateAt loginRequest hrevoked ⟨fun entry hentry => ?_,
    handedOut_nothing (by decide)⟩
  obtain rfl := Option.some.inj hentry
  exact (by decide : appointAt ≤ lateAt)

theorem clock_afterwards : ClockForward (afterwards revoking) lateAt := by
  intro entry hentry
  obtain rfl := Option.some.inj hentry
  exact Nat.le_refl _

def bobsRequest : Request := { appointRequest with bearer := some "bob" }

def freshRequest : Request := { appointRequest with bearer := some "fresh" }

theorem handedOut_bobs : twoTokens.credentials.HandedOut (afterwards revoking) bobsRequest :=
  handedOut_by (by simp [afterwards]) tokens_bobIn (by decide)

theorem handedOut_fresh
    (htokens : (aliceAgain revoking).reply.tokens = [twoTokens.readToken "fresh"]) :
    twoTokens.credentials.HandedOut (afterwards revoking) freshRequest :=
  handedOut_by (by simp [afterwards]) htokens (by decide)

/-- Before the request, Bob's token lets him in, and when it has run out it does not. Then Alice is
let in, and not as Bob. -/
def ShutsOut (revoking : Request) : Prop :=
  twoTokens.pass appointAt bobsRequest bobIn.after = .ok (some (Server.actorOf bobClaims)) ∧
    twoTokens.actorID (some (Server.actorOf bobClaims)) = bob.id ∧
    twoTokens.pass lateAt bobsRequest (aliceAgain revoking).after ≠
      .ok (some (Server.actorOf bobClaims)) ∧
    twoTokens.pass lateAt freshRequest (aliceAgain revoking).after =
      .ok (some (Server.actorOf freshClaims)) ∧
    twoTokens.actorID (some (Server.actorOf freshClaims)) ≠ bob.id

end Revoking

theorem pass_bobs : twoTokens.pass appointAt bobsRequest bobIn.after =
    .ok (some (Server.actorOf bobClaims)) := rfl

theorem actorID_bobs : twoTokens.actorID (some (Server.actorOf bobClaims)) = bob.id := by decide

/-- Alice deletes Bob. -/
theorem locked_out_bob : ShutsOut deleteRequest := by
  have hdeleted : Server.Deleted bob.id (revoked deleteRequest).after :=
    ⟨(by decide : bob.id ∈ (revoked deleteRequest).after.auth.users.map Auth.User.id), by decide⟩
  have hrun := @run_afterwards deleteRequest (by decide)
  refine ⟨pass_bobs, actorID_bobs, fun hpass => ?_, rfl, ?_⟩
  · exact Server.locked_out_of_deleted hrun (split_afterwards _) hdeleted clock_afterwards
      handedOut_bobs (by decide) hpass actorID_bobs
  · exact Server.locked_out_of_deleted hrun (split_afterwards _) hdeleted clock_afterwards
      (handedOut_fresh (by decide)) (by decide) rfl

/-- `PATCH /users/:id` for Bob. -/
def switchOffRequest : Request :=
  { appointRequest with
    endpoint := .updateUser
    body := some fun tag =>
      if tag = "is_active" then .value (.bool false)
      else object [("first_name", "Bob"), ("last_name", "Ahrens")] tag }

/-- Alice switches Bob off. -/
theorem switched_off_bob : ShutsOut switchOffRequest := by
  have hoff : ∀ old ∈ [aliceAgain switchOffRequest], old.before.auth.SwitchedOff bob.id := by
    intro old hold
    obtain rfl := List.mem_singleton.mp hold
    decide
  have hrun := @run_afterwards switchOffRequest (by decide)
  refine ⟨pass_bobs, actorID_bobs, fun hpass => ?_, rfl, ?_⟩
  · exact Server.locked_out_of_switchedOff hrun (split_afterwards _) hoff clock_afterwards
      handedOut_bobs (by decide) hpass actorID_bobs
  · exact Server.locked_out_of_switchedOff hrun (split_afterwards _) hoff clock_afterwards
      (handedOut_fresh (by decide)) (by decide) rfl

/-- `DELETE /users/:id/roles/:slug` for Bob. -/
def demoteRequest : Request :=
  { appointRequest with
    endpoint := .removeRole
    param := fun name => if name = "slug" then Auth.adminRole else appointRequest.param name
    body := none }

/-- Alice takes the role of an administrator from Bob. -/
theorem refused_bob : ShutsOut demoteRequest := by
  have hdenied : ∀ old ∈ [aliceAgain demoteRequest],
      ¬old.before.auth.Permits bob.id "users.write" := by
    intro old hold
    obtain rfl := List.mem_singleton.mp hold
    rintro (⟨role, hrole, -⟩ | hpermission)
    · have hnone : (aliceAgain demoteRequest).before.auth.liveRoles bob.id = [] := by decide
      exact absurd (hnone ▸ hrole) List.not_mem_nil
    · exact absurd hpermission (by decide)
  have hrun := @run_afterwards demoteRequest (by decide)
  refine ⟨pass_bobs, actorID_bobs, fun hpass => ?_, rfl, ?_⟩
  · exact Server.refused_of_denied hrun (split_afterwards _) hdenied clock_afterwards
      handedOut_bobs rfl (by decide) hpass actorID_bobs
  · exact Server.refused_of_denied hrun (split_afterwards _) hdenied clock_afterwards
      (handedOut_fresh (by decide)) rfl (by decide) rfl

end Sample

end Skolva.Http
