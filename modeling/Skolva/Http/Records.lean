import Skolva.Api.Persistence
import Skolva.Http.Programs
import Skolva.Http.Access

/-! # What becomes of records

Requests at the same time, with their calls in any order, lose no row and write the identity of
none again.
-/

namespace Skolva.Http

open Effect
open Api (Db Persist)

namespace Server

variable {s : Server}

/-- A call keeps the rows, and the keys of the tables that it can insert into twice. -/
theorem persist_serve (now : Nat) (op : Op) {db : Db} (hkeys : db.ProfileKeys) :
    (s.serve now op db).2.ProfileKeys ∧ Persist db (s.serve now op db).2 := by
  cases op with
  | auth op =>
      exact ⟨hkeys, Auth.persists_serve s.service.lib now op db.auth, .refl _, .refl _, .refl _,
        .refl _⟩
  | directory op =>
      exact ⟨hkeys, Auth.users_serveDirectory s.service.lib now op db.auth, .refl _, .refl _,
        .refl _, .refl _⟩
  | profile op =>
      have hpersists := Crm.persists_serveProfile now op (show
        Crm.ProfileKeys db.profile.addresses db.profile.preferences from hkeys)
      exact ⟨hpersists.keys, .refl _, .refl _, hpersists.addresses, hpersists.preferences, .refl _⟩
  | contacts op =>
      exact ⟨hkeys, .refl _, Crm.persists_serve (Api.moment now) op db.crm, .refl _, .refl _,
        .refl _⟩
  | groups op =>
      exact ⟨hkeys, .refl _, .refl _, .refl _, .refl _,
        Groups.persists_serve (Api.moment now) op db.groupsDb⟩
  | members op => exact ⟨hkeys, .refl _, .refl _, .refl _, .refl _, .refl _⟩
  | search q limit => exact ⟨hkeys, .refl _⟩

section Concurrent

variable {Thread : Type} [DecidableEq Thread] {first middle last : s.Requests Thread}

theorem interleaves_persist (hreach : s.Interleaves first last) (hkeys : first.store.ProfileKeys) :
    last.store.ProfileKeys ∧ Persist first.store last.store := by
  have huses : ∀ thread, (first.program thread).Uses fun _ => True :=
    fun thread => Program.uses_of_forall (fun _ => trivial) _
  refine hreach.preserved (motive := fun db => db.ProfileKeys ∧ Persist first.store db) huses
    (fun _ now op db _ hdb => ?_) ⟨hkeys, .refl _⟩
  obtain ⟨hnext, hstep⟩ := persist_serve now op hdb.1
  exact ⟨hnext, hdb.2.trans hstep⟩

/-- Whatever requests are processed at the same time, and in whatever order their calls reach
the database: each row of users, contacts, addresses, preferences and groups that is there at
some moment is there at every later one, with the same identity. If it is marked as deleted, it
is the same row. -/
theorem records_persist {request : Thread → Request} {readings : Thread → Nat → Nat} {start : Db}
    (hmiddle : s.Interleaves (s.launch request readings start) middle)
    (hlast : s.Interleaves middle last) (hkeys : start.ProfileKeys) :
    Persist middle.store last.store :=
  (interleaves_persist hlast (interleaves_persist hmiddle hkeys).1).2

end Concurrent

end Server

/-! ## Two requests at the same time -/

namespace Sample

/-- `DELETE /users/:id` for Bob. -/
def deleteRequest : Request := { appointRequest with endpoint := .deleteUser, body := none }

/-- Bob is made an administrator, and at the same time he is deleted. -/
def bothRequests (deletes : Bool) : Request := if deletes then deleteRequest else appointRequest

def bothLaunched : server.Requests Bool := server.launch bothRequests (fun _ _ => appointAt) db

/-- Bob is still there when the first request looks, and gone when it writes. -/
def bothLooked : server.Requests Bool :=
  bothLaunched.schedule server.serve [(false, appointAt), (true, appointAt)]

def bothDone : server.Requests Bool :=
  bothLooked.schedule server.serve
    [(true, appointAt), (false, appointAt), (false, appointAt), (false, appointAt)]

theorem interleaves_bothLooked : server.Interleaves bothLaunched bothLooked :=
  Pool.Reaches.schedule .refl (fun _ _ _ => trivial) _

theorem interleaves_bothDone : server.Interleaves bothLooked bothDone :=
  Pool.Reaches.schedule .refl (fun _ _ _ => trivial) _

theorem persist_both : bothDone.trace.length = 6 ∧ Persist bothLooked.store bothDone.store :=
  ⟨by decide, Server.records_persist interleaves_bothLooked interleaves_bothDone
    ⟨List.nodup_nil, List.nodup_nil⟩⟩

end Sample

end Skolva.Http
