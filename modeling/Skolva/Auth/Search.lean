import Skolva.Auth.Directory
import Skolva.Auth.Login
import Skolva.Sql.Query

/-! # Search for users

`Repository.SearchUsers`. The searcher ranks identifiers; their rows are then looked up and
brought back into the order of the ranks.
-/

namespace Skolva.Auth

open Effect Sql

/-! ## The repository -/

/-- A result of the searcher. Its rank is its place in the list. -/
structure Hit where
  id : Uuid

/-- The searcher of the core library. -/
structure Searcher where
  newSearcher : String → Except CallError Unit
  search : String → Int → Except CallError (List Hit)

/-- A call that the search makes. -/
inductive SearchOp where
  | newSearcher (entity : String)
  | search (q : String) (limit : Int)
  | directory (op : DirectoryOp)

abbrev SearchOp.Resp : SearchOp → Type
  | .newSearcher _ => Except CallError Unit
  | .search .. => Except CallError (List Hit)
  | .directory op => op.Resp

abbrev SearchProg := Program Nat SearchOp SearchOp.Resp

def searchUsers (q : String) (limit : Int) :
    SearchProg (Except CallError (List UserResponse)) := do
  match ← Program.perform (SearchOp.newSearcher "users") with
  | .error cause => return .error cause
  | .ok () =>
      match ← Program.perform (SearchOp.search q limit) with
      | .error cause => return .error cause
      | .ok results =>
          (searchUserRows (results.map Hit.id)).embed SearchOp.directory fun _ resp => resp

/-- The calls of the search. The rows of the look-up come in the given order. -/
def serveSearch (lib : External) (core : Searcher) (order : List UserResponse → List UserResponse)
    (now : Nat) : (op : SearchOp) → Db → op.Resp × Db
  | .newSearcher entity, db => (core.newSearcher entity, db)
  | .search q limit, db => (core.search q limit, db)
  | .directory (.getUsersByIDs ids), db => (.ok (order (db.getUsersByIDs ids)), db)
  | .directory op, db => serveDirectory lib now op db

/-! ## The look-up -/

section Lookup

variable {db : Db}

namespace Db

theorem nodup_getUsersByIDs (hkey : db.KeyUnique) (ids : List Uuid) :
    ((db.getUsersByIDs ids).map UserResponse.id).Nodup := by
  unfold getUsersByIDs
  rw [List.map_map]
  exact hkey.sublist (List.filter_sublist.map User.id)

/-- The row of an identifier that was asked for is that of the live user. -/
theorem find?_getUsersByIDs {ids : List Uuid} {id : Uuid} (hid : id ∈ ids) :
    ((db.getUsersByIDs ids).find? fun row => row.id = id) =
      (db.liveUser id).map fun user => userFrom user.row := by
  unfold getUsersByIDs liveUser
  rw [List.find?_map, List.find?_filter]
  congr 1
  apply congrArg (db.users.find? ·)
  funext user
  by_cases hsame : user.id = id
  · simp [userFrom, User.row, hsame, hid]
  · simp [userFrom, User.row, hsame]

end Db

/-- The map that the rows are put into has the live user of each identifier. -/
theorem find?_rows (hkey : db.KeyUnique) {ids : List Uuid} {rows : List UserResponse}
    (hrows : rows.Perm (db.getUsersByIDs ids)) {id : Uuid} (hid : id ∈ ids) :
    (rows.reverse.find? fun row => row.id = id) =
      (db.liveUser id).map fun user => userFrom user.row := by
  rw [find?_key_of_perm (Db.nodup_getUsersByIDs hkey ids) (rows.reverse_perm.trans hrows) id]
  exact Db.find?_getUsersByIDs hid

theorem liveUser_id {id : Uuid} {user : User} (huser : db.liveUser id = some user) :
    user.id = id := by
  have hfound := List.find?_some huser
  simp only [decide_eq_true_eq] at hfound
  exact hfound.1

/-- The identifiers of the rows of live users are those of them that are live. -/
theorem map_id_filterMap_liveUser (ids : List Uuid) :
    (ids.filterMap fun id => (db.liveUser id).map fun user => userFrom user.row).map
        UserResponse.id =
      ids.filter fun id => (db.liveUser id).isSome := by
  induction ids with
  | nil => rfl
  | cons id rest ih =>
      cases huser : db.liveUser id with
      | none => simpa [huser] using ih
      | some user => simpa [huser, userFrom, User.row, liveUser_id huser] using ih

end Lookup

/-! ## The search -/

section Run

variable (lib : External) (now : Nat) {db : Db} {core : Searcher} {q : String} {limit : Int}
variable {hits : List Hit} {order : List UserResponse → List UserResponse}

/-- After a successful search the rows of the hits are looked up, if there are any. -/
theorem run_searchUsers (hnew : core.newSearcher "users" = .ok ())
    (hsearch : core.search q limit = .ok hits) :
    (searchUsers q limit).run (Program.logged (serveSearch lib core order)) now ([], db) =
      if hits = [] then
        (.ok [], [.search q limit, .newSearcher "users"], db)
      else
        let rows := order (db.getUsersByIDs (hits.map Hit.id))
        (.ok ((hits.map Hit.id).filterMap fun id => rows.reverse.find? fun row => row.id = id),
          [.directory (.getUsersByIDs (hits.map Hit.id)), .search q limit, .newSearcher "users"],
          db) := by
  unfold searchUsers searchUserRows
  simp only [Program.run_bind, Program.run_perform, Program.logged, serveSearch, hnew, hsearch]
  cases hits with
  | nil => rfl
  | cons hit rest => rfl

/-- The answer is the live ones of the hits, each once and in their order, in whatever order
their rows were returned. Without hits no row is looked up. -/
theorem searchUsers_live (hnew : core.newSearcher "users" = .ok ())
    (hsearch : core.search q limit = .ok hits) (hdistinct : (hits.map Hit.id).Nodup)
    (hkey : db.KeyUnique) (horder : ∀ rows, (order rows).Perm rows) :
    ∃ rows log,
      (searchUsers q limit).run (Program.logged (serveSearch lib core order)) now ([], db) =
        (.ok rows, log, db) ∧
      rows = hits.filterMap (fun hit => (db.liveUser hit.id).map fun user => userFrom user.row) ∧
      rows.map UserResponse.id =
        (hits.map Hit.id).filter (fun id => (db.liveUser id).isSome) ∧
      (rows.map UserResponse.id).Nodup ∧
      log = (if hits = [] then [] else [SearchOp.directory (.getUsersByIDs (hits.map Hit.id))]) ++
        [.search q limit, .newSearcher "users"] := by
  have hlive : (hits.map Hit.id).filterMap (fun id =>
        (order (db.getUsersByIDs (hits.map Hit.id))).reverse.find? fun row => row.id = id) =
      (hits.map Hit.id).filterMap fun id => (db.liveUser id).map fun user => userFrom user.row :=
    List.filterMap_congr fun id hid => find?_rows hkey (horder _) hid
  have hids := @map_id_filterMap_liveUser db (hits.map Hit.id)
  have hnodup := hids ▸ hdistinct.filter fun id => (db.liveUser id).isSome
  rw [run_searchUsers lib now hnew hsearch]
  by_cases hnone : hits = []
  · subst hnone
    exact ⟨[], _, rfl, rfl, rfl, List.nodup_nil, rfl⟩
  · rw [if_neg hnone, if_neg hnone]
    refine ⟨_, _, rfl, ?_, ?_, ?_, rfl⟩
    · rw [hlive, List.filterMap_map]
      rfl
    · rw [hlive, hids]
    · rw [hlive]
      exact hnodup

end Run

namespace Sample

def bob : User := { alice with id := 2, email := "bob@example.org", firstName := "Bob" }

def carol : User :=
  { alice with id := 3, email := "carol@example.org", firstName := "Carol", deletedAt := some 1 }

def dbWithThree : Db := { db with users := [alice, bob, carol] }

/-- Carol, who was found first, has been deleted since. -/
def ranked : Searcher where
  newSearcher _ := .ok ()
  search _ _ := .ok [⟨3⟩, ⟨2⟩, ⟨1⟩]

theorem searchUsers_ranked :
    ((searchUsers "ahrens" 50).run
        (Program.logged (serveSearch Reference.external ranked List.reverse)) 2 ([], dbWithThree)).1 =
      .ok [userFrom bob.row, userFrom alice.row] := by
  obtain ⟨rows, log, hrun, hrows, _⟩ := searchUsers_live Reference.external 2
    (show ranked.newSearcher "users" = .ok () from rfl)
    (show ranked.search "ahrens" 50 = .ok [⟨3⟩, ⟨2⟩, ⟨1⟩] from rfl) (by decide)
    (show (dbWithThree.users.map User.id).Nodup by decide) List.reverse_perm
  rw [hrun, hrows]
  rfl

end Sample

end Skolva.Auth
