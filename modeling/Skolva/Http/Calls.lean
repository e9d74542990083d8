import Skolva.Auth.EndpointCalls
import Skolva.Effect.Simulation
import Skolva.Http.Access

/-! # The calls behind the routes

What the server does to the tables, it does by one call of a method of the services for each
request, if any.
-/

namespace Skolva.Http

open Effect
open Api (Db)

namespace Server

variable (s : Server)

/-- The call of the handler. Reads that come after it are left out. -/
def callOf (now : Nat) (request : Request) (db : Db) : Option Api.Call :=
  match s.pass now request db with
  | .error _ => none
  | .ok actor =>
      match s.action (s.actorID actor) request db with
      | .auth request => (s.service.callOf now request).map .auth
      | .call method => some method
      | .reject _ | .page => none

/-- A request leaves the state that its call leaves. -/
theorem state_process (now : Nat) (request : Request) (db : Db) :
    (s.process now request db).2 =
      stateAfter (Api.process s.service) now db (s.callOf now request db) := by
  unfold process callOf
  cases s.pass now request db with
  | error refusal => rfl
  | ok passed =>
      dsimp only
      cases s.action (s.actorID passed) request db with
      | auth call =>
          simp only [perform, Auth.state_process]
          cases s.service.callOf now call <;> rfl
      | call method => rfl
      | reject err => rfl
      | page => rfl

variable {s} {start last : Db} {history : List s.Entry}

/-- The calls that a history of requests makes. -/
def calls (history : List s.Entry) : List (Api.ApiEntry s.service) :=
  history.filterMap (Entry.call (Api.process s.service) s.callOf)

/-- A run of the server is a run of the services: each request leaves what the one call that it
makes leaves, if it makes any, and the calls are made in the order of the requests. -/
theorem Run.apiRun (hrun : s.Run start history last) :
    Api.ApiRun s.service start (calls history) last :=
  Serial.calls hrun (fun _ _ _ => Credentials.Run.clock) s.state_process

end Server

/-- Alice signs in, and then makes Bob an administrator. -/
theorem Sample.apiRun_appointment :
    Api.ApiRun Sample.server.service Sample.db (Server.calls [Sample.appointment, Sample.login])
      Sample.appointment.after :=
  Server.Run.apiRun Sample.run_appointment

end Skolva.Http
