import Skolva.Auth.Directory
import Skolva.Auth.Login
import Skolva.Groups.Members
import Skolva.Sql.Paging
import Mathlib.Algebra.Group.Int.Defs

/-! # Lists of users and of groups, page by page

A client reads a list with one limit and with the offsets 0, `limit`, `2 * limit` and so on,
up to the first empty page.
-/

namespace Skolva.Api

open Effect Sql
open Auth (Bytes)

/-! ## The query parameters -/

/-- The digits of `strconv.ParseUint` in base 10. -/
def parseDigits : Bytes → Option Nat
  | [] => none
  | text => text.foldlM (fun value byte =>
      if 48 ≤ byte ∧ byte ≤ 57 then some (10 * value + (byte.toNat - 48)) else none) 0

/-- The number with a sign, if it has 32 bits. -/
def signed (negative : Bool) (magnitude : Nat) : Option Int :=
  if negative then if magnitude ≤ 2 ^ 31 then some (-magnitude) else none
  else if magnitude < 2 ^ 31 then some magnitude else none

/-- `strconv.ParseInt(text, 10, 32)`, with nothing for an error. -/
def parseInt32 : Bytes → Option Int
  | [] => none
  | sign :: rest =>
      let digits := if sign = 43 ∨ sign = 45 then rest else sign :: rest
      (parseDigits digits).bind (signed (sign = 45))

/-- `pagination`, which the handlers of both modules have: limit and offset. A parameter that
the query does not have is empty. -/
def pagination (query : String → Bytes) : Int × Int :=
  let limit :=
    if query "limit" ≠ [] then
      match parseInt32 (query "limit") with
      | some n => if n > 0 ∧ n ≤ 200 then n else 50
      | none => 50
    else 50
  let offset :=
    if query "offset" ≠ [] then
      match parseInt32 (query "offset") with
      | some n => if n ≥ 0 then n else 0
      | none => 0
    else 0
  (limit, offset)

theorem signed_lt {negative : Bool} {magnitude : Nat} {n : Int}
    (hsigned : signed negative magnitude = some n) : n < 2 ^ 31 := by
  unfold signed at hsigned
  split at hsigned <;> split at hsigned <;> cases hsigned <;> omega

theorem parseInt32_lt {text : Bytes} {n : Int} (hparsed : parseInt32 text = some n) :
    n < 2 ^ 31 := by
  cases text with
  | nil => cases hparsed
  | cons sign rest =>
      obtain ⟨magnitude, _, hsigned⟩ := Option.bind_eq_some_iff.mp hparsed
      exact signed_lt hsigned

theorem pagination_limit (query : String → Bytes) :
    1 ≤ (pagination query).1 ∧ (pagination query).1 ≤ 200 := by
  unfold pagination
  dsimp only
  split
  · split
    · split <;> omega
    · decide
  · decide

theorem pagination_offset (query : String → Bytes) :
    0 ≤ (pagination query).2 ∧ (pagination query).2 < 2 ^ 31 := by
  unfold pagination
  dsimp only
  split
  · split
    next n hparsed =>
      have hsmall := parseInt32_lt hparsed
      split <;> omega
    · decide
  · decide

/-! ## How the lists are sorted -/

section Order

variable (collation : Collation)

/-- `ORDER BY last_name, first_name, id`. -/
def userBefore : Auth.User → Auth.User → Prop :=
  thenBy (fun one other => collation.le one.lastName other.lastName)
    (thenBy (fun one other => collation.le one.firstName other.firstName)
      fun one other => one.id ≤ other.id)

/-- `ORDER BY name, id`. -/
def groupBefore : Groups.GroupRow → Groups.GroupRow → Prop :=
  thenBy (fun one other => collation.le one.name other.name) fun one other => one.id ≤ other.id

theorem userBefore_total (one other : Auth.User) :
    userBefore collation one other ∨ userBefore collation other one :=
  thenBy_total (fun _ _ => collation.total _ _)
    (thenBy_total (fun _ _ => collation.total _ _) fun _ _ => BitVec.le_total _ _) one other

theorem userBefore_trans (one two three : Auth.User) (hone : userBefore collation one two)
    (htwo : userBefore collation two three) : userBefore collation one three := by
  refine thenBy_trans ?_ (thenBy_trans ?_ ?_) one two three hone htwo
  · exact fun _ _ _ => collation.trans _ _ _
  · exact fun _ _ _ => collation.trans _ _ _
  · exact fun _ _ _ => BitVec.le_trans

theorem userBefore_id {one other : Auth.User} (hforth : userBefore collation one other)
    (hback : userBefore collation other one) : one.id = other.id := by
  obtain ⟨hforth, hback⟩ := second_of_thenBy hforth hback
  obtain ⟨hforth, hback⟩ := second_of_thenBy hforth hback
  exact BitVec.le_antisymm hforth hback

theorem groupBefore_total (one other : Groups.GroupRow) :
    groupBefore collation one other ∨ groupBefore collation other one :=
  thenBy_total (fun _ _ => collation.total _ _) (fun _ _ => BitVec.le_total _ _) one other

theorem groupBefore_trans (one two three : Groups.GroupRow)
    (hone : groupBefore collation one two) (htwo : groupBefore collation two three) :
    groupBefore collation one three := by
  refine thenBy_trans ?_ ?_ one two three hone htwo
  · exact fun _ _ _ => collation.trans _ _ _
  · exact fun _ _ _ => BitVec.le_trans

theorem groupBefore_id {one other : Groups.GroupRow} (hforth : groupBefore collation one other)
    (hback : groupBefore collation other one) : one.id = other.id := by
  obtain ⟨hforth, hback⟩ := second_of_thenBy hforth hback
  exact BitVec.le_antisymm hforth hback

end Order

/-! ## The lists -/

def liveUsers (db : Auth.Db) : List Auth.User := db.users.filter fun user => user.deletedAt = none

def liveGroups (db : Groups.MembersDb) : List Groups.GroupRow :=
  db.groups.filter fun row => row.deletedAt = none

def ofType (type : String) (row : Groups.GroupRow) : Bool := row.groupType = type

section Lists

variable {collation : Collation}

/-- The calls on `users` of a database that sorts `ListUsers` in its way. -/
def serveUserPages (lib : Auth.External) (sorter : Sorter (userBefore collation)) (now : Nat) :
    (op : Auth.DirectoryOp) → Auth.Db → op.Resp × Auth.Db
  | .listUsers limit offset, db =>
      (.ok ((sorter.page limit offset (liveUsers db)).map fun user => Auth.userFrom user.row), db)
  | op, db => Auth.serveDirectory lib now op db

/-- The calls on `groups` of a database that sorts `ListGroups` and `ListGroupsByType` in its
ways. -/
def serveGroupPages (sorter byType : Sorter (groupBefore collation)) (now : Nat) :
    (op : Groups.MembersOp) → Groups.MembersDb → op.Resp × Groups.MembersDb
  | .list limit offset, db =>
      (.ok ((sorter.page limit offset (liveGroups db)).map Groups.groupFrom), db)
  | .listByType type limit offset, db =>
      (.ok ((byType.page limit offset ((liveGroups db).filter (ofType type))).map
        Groups.groupFrom), db)
  | op, db => Groups.serveMembers now op db

/-- A client reads the whole list from the answers of a service that leaves its database. -/
def Reads {Out ε Db : Type} (service : Nat → Except ε (List Out) × Db) (limit : Nat) (db : Db)
    (all : List Out) : Prop :=
  ∃ page : Nat → List Out, (∀ index, service (index * limit) = (.ok (page index), db)) ∧
    ReadOut page all

theorem reads_users (lib : Auth.External) (now : Nat) {db : Auth.Db} (hkey : db.KeyUnique)
    {all : List Auth.User} (hperm : all.Perm (liveUsers db))
    (hsorted : all.Pairwise (userBefore collation)) (sorter : Sorter (userBefore collation))
    {limit : Nat} (hlimit : 0 < limit) :
    Reads (fun offset =>
        (Auth.Directory.listUsers limit offset).run (serveUserPages lib sorter) now db)
      limit db (all.map fun user => Auth.userFrom user.row) := by
  refine ⟨_, fun index => rfl, (sorter.readOut ?_ hperm hsorted hlimit).map _⟩
  intro one hone other hother hforth hback
  exact List.inj_on_of_nodup_map hkey (List.mem_filter.mp hone).1 (List.mem_filter.mp hother).1
    (userBefore_id collation hforth hback)

section Groups

variable (now : Nat) {db : Groups.MembersDb} (hkey : (db.groups.map Groups.GroupRow.id).Nodup)
variable {all : List Groups.GroupRow} (hperm : all.Perm (liveGroups db))
variable (hsorted : all.Pairwise (groupBefore collation))
variable (sorter byType : Sorter (groupBefore collation)) {limit : Nat} (hlimit : 0 < limit)

include hkey in
theorem groups_apart : ∀ one ∈ liveGroups db, ∀ other ∈ liveGroups db,
    groupBefore collation one other → groupBefore collation other one → one = other := by
  intro one hone other hother hforth hback
  exact List.inj_on_of_nodup_map hkey (List.mem_filter.mp hone).1 (List.mem_filter.mp hother).1
    (groupBefore_id collation hforth hback)

include hkey hperm hsorted hlimit

theorem reads_groups :
    Reads (fun offset =>
        (Groups.Service.list "" limit offset).run (serveGroupPages sorter byType) now db)
      limit db (all.map Groups.groupFrom) :=
  ⟨_, fun _ => rfl, (sorter.readOut (groups_apart hkey) hperm hsorted hlimit).map _⟩

theorem reads_groups_ofType {type : String} (hvalid : type ∈ Groups.validGroupTypes) :
    Reads (fun offset =>
        (Groups.Service.list type limit offset).run (serveGroupPages sorter byType) now db)
      limit db ((all.map Groups.groupFrom).filter fun group => group.groupType = type) := by
  have hrun : ∀ offset,
      (Groups.Service.list type limit offset).run (serveGroupPages sorter byType) now db =
        (.ok ((byType.page limit offset ((liveGroups db).filter (ofType type))).map
          Groups.groupFrom), db) := by
    have hnonempty : type ≠ "" := by
      rintro rfl
      exact absurd hvalid (by decide)
    intro offset
    unfold Groups.Service.list
    rw [if_pos hnonempty, if_neg (not_not.mpr hvalid)]
    rfl
  refine ⟨_, fun index => hrun _, ?_⟩
  rw [List.filter_map]
  exact (byType.readOut_filter (groups_apart hkey) hperm hsorted hlimit (ofType type)).map _

end Groups

end Lists

/-! ## A database with the collation `C` -/

section CodePoints

instance (collation : Collation) [DecidableRel collation.le] : DecidableRel (userBefore collation) :=
  fun _ _ => inferInstanceAs (Decidable (_ ∧ (_ → _ ∧ (_ → _))))

instance (collation : Collation) [DecidableRel collation.le] : DecidableRel (groupBefore collation) :=
  fun _ _ => inferInstanceAs (Decidable (_ ∧ (_ → _)))

instance : DecidableRel Collation.codePoints.le :=
  fun one other => inferInstanceAs (Decidable (one ≤ other))

theorem lt_or_eq_iff (one other : String) (rest : Prop) :
    one < other ∨ one = other ∧ rest ↔ one ≤ other ∧ (other ≤ one → rest) := by
  constructor
  · rintro (hlt | ⟨rfl, hrest⟩)
    · exact ⟨hlt.le, fun hback => absurd hback (not_le_of_gt hlt)⟩
    · exact ⟨le_rfl, fun _ => hrest⟩
  · rintro ⟨hle, hrest⟩
    rcases hle.lt_or_eq with hlt | rfl
    · exact Or.inl hlt
    · exact Or.inr ⟨rfl, hrest le_rfl⟩

theorem userOrder_eq (one other : Auth.User) :
    Auth.Db.userOrder one other = decide (userBefore Collation.codePoints one other) := by
  rw [Bool.eq_iff_iff]
  simp only [Auth.Db.userOrder, Bool.or_eq_true, Bool.and_eq_true, decide_eq_true_eq,
    lt_or_eq_iff]
  rfl

theorem groupOrder_eq (one other : Groups.GroupRow) :
    Groups.MembersDb.groupOrder one other = decide (groupBefore Collation.codePoints one other) := by
  rw [Bool.eq_iff_iff]
  simp only [Groups.MembersDb.groupOrder, Bool.or_eq_true, Bool.and_eq_true, decide_eq_true_eq,
    lt_or_eq_iff]
  rfl

def userSorter : Sorter (userBefore Collation.codePoints) :=
  Sorter.merge (userBefore_total _) (userBefore_trans _)

def groupSorter : Sorter (groupBefore Collation.codePoints) :=
  Sorter.merge (groupBefore_total _) (groupBefore_trans _)

theorem listUsers_eq_page (db : Auth.Db) (limit offset : Nat) :
    db.listUsers limit offset =
      (userSorter.page limit offset (liveUsers db)).map fun user => Auth.userFrom user.row := by
  unfold Auth.Db.listUsers
  simp only [funext fun one => funext (userOrder_eq one)]
  rfl

theorem listGroups_eq_page (db : Groups.MembersDb) (limit offset : Nat) :
    db.listGroups none limit offset =
      (groupSorter.page limit offset (liveGroups db)).map Groups.groupFrom := by
  have hrows : (db.groups.filter fun row =>
      row.deletedAt = none ∧ ∀ type ∈ (none : Option String), row.groupType = type) =
      liveGroups db := by
    simp [liveGroups]
  unfold Groups.MembersDb.listGroups
  simp only [hrows, funext fun one => funext (groupOrder_eq one)]
  rfl

theorem listGroups_type_eq_page (db : Groups.MembersDb) (type : String) (limit offset : Nat) :
    db.listGroups (some type) limit offset =
      (groupSorter.page limit offset ((liveGroups db).filter (ofType type))).map
        Groups.groupFrom := by
  have hrows : (db.groups.filter fun row =>
      row.deletedAt = none ∧ ∀ one ∈ some type, row.groupType = one) =
      (liveGroups db).filter (ofType type) := by
    simp [liveGroups, ofType, Bool.and_comm]
  unfold Groups.MembersDb.listGroups
  simp only [hrows, funext fun one => funext (groupOrder_eq one)]
  rfl

/-- The calls as modelled before are those of a database that compares code points. -/
theorem serveUserPages_userSorter (lib : Auth.External) :
    serveUserPages lib userSorter = Auth.serveDirectory lib := by
  funext now op db
  cases op with
  | listUsers limit offset =>
      simp only [serveUserPages, Auth.serveDirectory, listUsers_eq_page]
  | _ => rfl

theorem serveGroupPages_groupSorter :
    serveGroupPages groupSorter groupSorter = Groups.serveMembers := by
  funext now op db
  cases op with
  | list limit offset =>
      simp only [serveGroupPages, Groups.serveMembers, listGroups_eq_page]
  | listByType type limit offset =>
      simp only [serveGroupPages, Groups.serveMembers, listGroups_type_eq_page]
  | _ => rfl

end CodePoints

/-! ## The pages are a partition -/

/-- The pages are the live rows in one order, whatever the limit is and however the database
sorts for each page; those of a type are the rows of that type in the same order. -/
theorem pages_partition (lib : Auth.External) (now : Nat) (collation : Collation) (db : Auth.Db)
    (groups : Groups.MembersDb) (husers : db.KeyUnique)
    (hgroups : (groups.groups.map Groups.GroupRow.id).Nodup) :
    (∀ query, (1 ≤ (pagination query).1 ∧ (pagination query).1 ≤ 200) ∧
      0 ≤ (pagination query).2 ∧ (pagination query).2 < 2 ^ 31) ∧
    (∃ all : List Auth.User, all.Perm (liveUsers db) ∧
      ∀ query, ∀ sorter : Sorter (userBefore collation),
        let limit := (pagination query).1.toNat
        Reads (fun offset =>
            (Auth.Directory.listUsers limit offset).run (serveUserPages lib sorter) now db)
          limit db (all.map fun user => Auth.userFrom user.row)) ∧
    ∃ all : List Groups.GroupRow, all.Perm (liveGroups groups) ∧
      ∀ query, ∀ sorter byType : Sorter (groupBefore collation),
        let limit := (pagination query).1.toNat
        let list := fun type offset =>
          (Groups.Service.list type limit offset).run (serveGroupPages sorter byType) now groups
        Reads (list "") limit groups (all.map Groups.groupFrom) ∧
        ∀ type ∈ Groups.validGroupTypes,
          Reads (list type) limit groups
            ((all.map Groups.groupFrom).filter fun group => group.groupType = type) := by
  have hlimit : ∀ query, 0 < (pagination query).1.toNat := by
    intro query
    have hrange := pagination_limit query
    omega
  obtain ⟨users, husersPerm, husersSorted⟩ := exists_sorted (userBefore_total collation)
    (userBefore_trans collation) (liveUsers db)
  obtain ⟨all, hperm, hsorted⟩ := exists_sorted (groupBefore_total collation)
    (groupBefore_trans collation) (liveGroups groups)
  refine ⟨fun query => ⟨pagination_limit query, pagination_offset query⟩,
    ⟨users, husersPerm, ?_⟩, all, hperm, ?_⟩
  · intro query sorter
    exact reads_users lib now husers husersPerm husersSorted sorter (hlimit query)
  · intro query sorter byType
    exact ⟨reads_groups now hgroups hperm hsorted sorter byType (hlimit query),
      fun type hvalid =>
        reads_groups_ofType now hgroups hperm hsorted sorter byType (hlimit query) hvalid⟩

namespace Sample

/-- Three of one name, of whom one is deleted. -/
def namesakes : Auth.Db :=
  { Auth.Sample.db with
    users := [{ Auth.Sample.alice with id := 3 }, Auth.Sample.alice,
      { Auth.Sample.alice with id := 2, deletedAt := some 1 }] }

def boards : Groups.MembersDb where
  users := []
  groups := [⟨2, "Vorstand", none, "vorstand", true, 0, 0, none, none, none⟩,
    ⟨1, "Vorstand", none, "ausschuss", true, 0, 0, none, none, none⟩]
  members := []

def onePerPage : String → Bytes := fun name => if name = "limit" then Auth.bytesOf "1" else []

theorem namesakes_partition :
    (∃ all : List Auth.User, all.Perm (liveUsers namesakes) ∧
      Reads (fun offset => (Auth.Directory.listUsers 1 offset).run
          (Auth.serveDirectory Auth.Reference.external) 5 namesakes)
        1 namesakes (all.map fun user => Auth.userFrom user.row)) ∧
    ∃ all : List Groups.GroupRow, all.Perm (liveGroups boards) ∧
      Reads (fun offset => (Groups.Service.list "vorstand" 1 offset).run Groups.serveMembers 5 boards)
        1 boards
        ((all.map Groups.groupFrom).filter fun group => group.groupType = "vorstand") := by
  have hquery : (pagination onePerPage).1.toNat = 1 := by decide +kernel
  obtain ⟨_, ⟨users, husers, hreadUsers⟩, all, hall, hread⟩ :=
    pages_partition Auth.Reference.external 5 Collation.codePoints namesakes boards
      (show (namesakes.users.map Auth.User.id).Nodup by decide) (by decide)
  refine ⟨⟨users, husers, ?_⟩, all, hall, ?_⟩
  · have hpages := hreadUsers onePerPage userSorter
    rwa [serveUserPages_userSorter, hquery] at hpages
  · have hpages := (hread onePerPage groupSorter groupSorter).2 "vorstand" (by decide)
    rwa [serveGroupPages_groupSorter, hquery] at hpages

end Sample

end Skolva.Api
