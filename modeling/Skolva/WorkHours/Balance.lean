import Skolva.Auth.Login
import Skolva.WorkHours.Schema
import Mathlib.Algebra.BigOperators.Group.Finset.Basic
import Mathlib.Tactic.NormNum

/-! # The account of a member in a year

What a member owes, has worked and has to pay, said of the tables alone, and when the
view says the same.
-/

namespace Skolva.WorkHours

open Auth (User)
open Sql

variable (db : Db)

/-! ## The account -/

namespace Db

/-- The live leases with status `active` of a user. -/
def activeLeases (u : User) : List Lease :=
  db.leases.filter fun lease =>
    lease.tenantUserId = u.id ∧ lease.deletedAt = none ∧ lease.status = .active

/-- The units the user holds. -/
def heldUnits (u : User) : Finset Uuid := ((db.activeLeases u).map Lease.unitId).toFinset

/-- The live additional hours of a unit. -/
def unitHours (unit : Uuid) (year : Int) : Numeric :=
  ((db.obligations.filter fun row =>
    row.unitId = unit ∧ row.year = year ∧ row.deletedAt = none).map
      UnitWorkHourObligation.additionalHours).sum

/-- The live adjustment of a user, 0 if there is none. -/
def adjustedHours (u : User) (year : Int) : Numeric :=
  ((db.adjustments.filter fun row =>
    row.userId = u.id ∧ row.year = year ∧ row.deletedAt = none).map
      UserWorkHourAdjustment.adjustedHours).sum

/-- The live verified hours of a user. -/
def workedHours (u : User) (year : Int) : Numeric :=
  ((db.workLogs.filter fun log => log.userId = u.id ∧ log.appliedToYear = year ∧
    log.isVerified = true ∧ log.deletedAt = none).map WorkLog.hoursSpent).sum

def requiredHours (u : User) (r : WorkHourRequirement) : Numeric :=
  r.baseHours + ∑ unit ∈ db.heldUnits u, db.unitHours unit r.year + db.adjustedHours u r.year

def missingHours (u : User) (r : WorkHourRequirement) : Numeric :=
  max 0 (db.requiredHours u r - db.workedHours u r.year)

/-- The rows of the view for a user and a year. -/
def balanceRows (u : User) (year : Int) : List BalanceRow :=
  db.viewWorkHourBalance.filter fun row => row.userId = u.id ∧ row.year = year

/-- The view has one row for the user in the year of the requirement, and the row is the
account. -/
def HasBalance (u : User) (r : WorkHourRequirement) : Prop :=
  ∃ row, db.balanceRows u r.year = [row] ∧
    row.totalRequired = db.requiredHours u r ∧
    row.hoursWorked = db.workedHours u r.year ∧
    row.hoursMissing = db.missingHours u r ∧
    row.replacementFee = db.missingHours u r * r.feePerMissingHour

end Db

variable {db} {u : User} {r : WorkHourRequirement}

/-! ## One user and one year of the view -/

section Rows

/-- The joined rows of one user and one year are those of one lease each, or of none. -/
def leaseRow (db : Db) (u : User) (r : WorkHourRequirement) (lease : Option Lease) : BalanceRow :=
  let withLease := ((u, r), lease)
  let withObligation := (withLease, db.obligations.find? (obligationOn withLease))
  let withAdjustment := (withObligation, db.adjustments.find? (adjustmentOn withObligation))
  balanceRow (withAdjustment, db.worked.find? (workedOn withAdjustment))

theorem obligationOn_le_one (hvalid : db.Valid) (source : WithLease) :
    (db.obligations.filter (obligationOn source)).length ≤ 1 := by
  obtain ⟨base, lease⟩ := source
  cases lease with
  | none =>
      have hnone : db.obligations.filter (obligationOn (base, none)) = [] := by
        simp [obligationOn]
      simp [hnone]
  | some lease =>
      apply length_filter_le_one hvalid.obligations_key (lease.unitId, base.2.year)
      intro row _ hrow
      simp only [obligationOn, Option.map_some, Option.some.injEq, decide_eq_true_eq] at hrow
      simp [hrow.1, hrow.2.1]

theorem adjustmentOn_le_one (hvalid : db.Valid) (source : WithObligation) :
    (db.adjustments.filter (adjustmentOn source)).length ≤ 1 := by
  apply length_filter_le_one hvalid.adjustments_key (source.1.1.1.id, source.1.1.2.year)
  intro row _ hrow
  simp only [adjustmentOn, decide_eq_true_eq] at hrow
  simp [hrow.1, hrow.2.1]

theorem workedOn_le_one (source : WithAdjustment) :
    (db.worked.filter (workedOn source)).length ≤ 1 := by
  apply length_filter_le_one nodup_groupSum (source.1.1.1.1.id, source.1.1.1.2.year)
  intro row _ hrow
  simpa [workedOn] using hrow

/-- Of all pairs of users and requirements, the conditions leave one. -/
theorem crossJoin_filter (hvalid : db.Valid) (huser : u ∈ db.users) (hlive : u.deletedAt = none)
    (hactive : u.isActive = true) (hreq : r ∈ db.requirements) :
    ((crossJoin db.users db.requirements).filter fun source =>
      decide (source.1.id = u.id ∧ source.1.deletedAt = none ∧ source.1.isActive = true) &&
        decide (source.2.year = r.year)) = [(u, r)] := by
  have husers : (db.users.filter fun user =>
      user.id = u.id ∧ user.deletedAt = none ∧ user.isActive = true) = [u] := by
    have hkey := filter_key_eq hvalid.users_pkey huser
    have hsplit : (db.users.filter fun user =>
        user.id = u.id ∧ user.deletedAt = none ∧ user.isActive = true) =
        (db.users.filter fun user => user.id = u.id).filter fun user =>
          user.deletedAt = none ∧ user.isActive = true := by
      simp [List.filter_filter, Bool.and_comm]
    rw [hsplit, hkey]
    simp [hlive, hactive]
  have hreqs := filter_key_eq hvalid.requirements_year hreq
  rw [filter_crossJoin (fun user : User => decide (user.id = u.id ∧ user.deletedAt = none ∧
    user.isActive = true)) (fun row : WorkHourRequirement => decide (row.year = r.year)),
    husers, hreqs]
  rfl

/-- The view has one row for each lease of the user, and one if there is no lease. -/
theorem balanceRows_eq (hvalid : db.Valid) (huser : u ∈ db.users) (hlive : u.deletedAt = none)
    (hactive : u.isActive = true) (hreq : r ∈ db.requirements) :
    db.balanceRows u r.year = (joined leaseOn db.leases (u, r)).map (leaseRow db u r) := by
  let select : User × WorkHourRequirement → Bool := fun source =>
    decide (source.1.id = u.id ∧ source.1.deletedAt = none ∧ source.1.isActive = true) &&
      decide (source.2.year = r.year)
  have hselect : ∀ rows, (List.filter (fun row =>
        row.1.1.1.1.1.deletedAt = none ∧ row.1.1.1.1.1.isActive = true) rows |>.map balanceRow
        |>.filter fun row => row.userId = u.id ∧ row.year = r.year) =
      (rows.filter fun row => select row.1.1.1.1).map balanceRow := by
    intro rows
    rw [List.filter_map, List.filter_filter]
    congr 1
    apply List.filter_congr
    intro row _
    rw [Bool.eq_iff_iff]
    simp only [Function.comp_apply, Bool.and_eq_true, decide_eq_true_eq, select]
    simp only [balanceRow]
    tauto
  unfold Db.balanceRows Db.viewWorkHourBalance
  dsimp only
  rw [hselect, filter_leftJoin (fun source : WithAdjustment => select source.1.1.1),
    filter_leftJoin (fun source : WithObligation => select source.1.1),
    filter_leftJoin (fun source : WithLease => select source.1), filter_leftJoin select,
    crossJoin_filter hvalid huser hlive hactive hreq,
    leftJoin_eq_map (fun source _ => workedOn_le_one source),
    leftJoin_eq_map (fun source _ => adjustmentOn_le_one hvalid source),
    leftJoin_eq_map (fun source _ => obligationOn_le_one hvalid source)]
  simp [leftJoin, leaseRow]

end Rows

/-! ## The columns of one row -/

section Columns

theorem leaseRow_unitHours (hvalid : db.Valid) (lease : Option Lease) :
    (leaseRow db u r lease).unitHours =
      (lease.map fun lease => db.unitHours lease.unitId r.year).getD 0 := by
  cases lease with
  | none =>
      have hnone : db.obligations.find? (obligationOn ((u, r), none)) = none := by
        simp [obligationOn]
      simp [leaseRow, balanceRow, hnone]
  | some lease =>
      have hon : obligationOn ((u, r), some lease) = fun row : UnitWorkHourObligation =>
          row.unitId = lease.unitId ∧ row.year = r.year ∧ row.deletedAt = none := by
        funext row
        simp [obligationOn, eq_comm]
      have hsum := coalesce_find? (obligationOn_le_one hvalid ((u, r), some lease))
        UnitWorkHourObligation.additionalHours
      simp only [leaseRow, balanceRow, Option.map_some, Option.getD_some]
      rw [hsum, hon]
      rfl

theorem leaseRow_adjustment (hvalid : db.Valid) (lease : Option Lease) :
    (leaseRow db u r lease).adjustment = db.adjustedHours u r.year := by
  simp only [leaseRow, balanceRow]
  rw [coalesce_find? (adjustmentOn_le_one hvalid _)]
  rfl

theorem leaseRow_hoursWorked (lease : Option Lease) :
    (leaseRow db u r lease).hoursWorked = db.workedHours u r.year := by
  simp only [leaseRow, balanceRow]
  refine (coalesce_groupSum (u.id, r.year)).trans ?_
  simp [Db.workedHours, List.filter_filter, Bool.and_assoc]

/-- With one lease at most, the units the user holds are those of the row. -/
theorem sum_heldUnits {lease : Option Lease} (hleases : db.activeLeases u = lease.toList)
    (hours : Uuid → Numeric) :
    ∑ unit ∈ db.heldUnits u, hours unit =
      (lease.map fun lease => hours lease.unitId).getD 0 := by
  unfold Db.heldUnits
  rw [hleases]
  cases lease with
  | none => simp
  | some lease => simp

end Columns

/-! ## The view and the account -/

theorem length_balanceRows (hvalid : db.Valid) (huser : u ∈ db.users) (hlive : u.deletedAt = none)
    (hactive : u.isActive = true) (hreq : r ∈ db.requirements) :
    (db.balanceRows u r.year).length = max 1 (db.activeLeases u).length := by
  rw [balanceRows_eq hvalid huser hlive hactive hreq, List.length_map, length_joined]
  rfl

/-- The row of a user with one lease at most is the account. -/
theorem hasBalance_of_lease (hvalid : db.Valid) (huser : u ∈ db.users)
    (hlive : u.deletedAt = none) (hactive : u.isActive = true) (hreq : r ∈ db.requirements)
    (lease : Option Lease) (hleases : db.activeLeases u = lease.toList) : db.HasBalance u r := by
  have hjoined : joined leaseOn db.leases (u, r) = [lease] := by
    unfold joined
    rw [show db.leases.filter (leaseOn (u, r)) = lease.toList from hleases]
    cases lease <;> rfl
  have hrequired : (leaseRow db u r lease).totalRequired = db.requiredHours u r := by
    have hunit := leaseRow_unitHours (u := u) (r := r) hvalid lease
    have hadjustment := leaseRow_adjustment (u := u) (r := r) hvalid lease
    unfold Db.requiredHours
    rw [sum_heldUnits hleases, ← hunit, ← hadjustment]
    rfl
  have hworked : (leaseRow db u r lease).hoursWorked = db.workedHours u r.year :=
    leaseRow_hoursWorked lease
  have hmissing : (leaseRow db u r lease).hoursMissing = db.missingHours u r := by
    unfold Db.missingHours
    rw [← hrequired, ← hworked, max_comm]
    rfl
  refine ⟨leaseRow db u r lease, ?_, hrequired, hworked, hmissing, ?_⟩
  · rw [balanceRows_eq hvalid huser hlive hactive hreq, hjoined]
    rfl
  · rw [← hmissing]
    rfl

/-- The view gives the account of a member exactly if the member has one live active lease
at most. -/
theorem hasBalance_iff (hvalid : db.Valid) (huser : u ∈ db.users) (hlive : u.deletedAt = none)
    (hactive : u.isActive = true) (hreq : r ∈ db.requirements) :
    db.HasBalance u r ↔ (db.activeLeases u).length ≤ 1 := by
  have hlength := length_balanceRows hvalid huser hlive hactive hreq
  constructor
  · rintro ⟨row, hrows, -⟩
    rw [hrows, List.length_singleton] at hlength
    omega
  · intro hone
    have haccount := hasBalance_of_lease hvalid huser hlive hactive hreq
    match hleases : db.activeLeases u with
    | [] => exact haccount none hleases
    | [lease] => exact haccount (some lease) hleases
    | _ :: _ :: _ => simp [hleases] at hone

namespace Sample

open Auth.Sample (alice)

/-- A lease of Alice that has no end. -/
def leaseOf (id unitId : Uuid) : Lease where
  id := id
  unitId := unitId
  tenantUserId := alice.id
  startDate := ((9497 : Int) : WithTop Int)
  endDate := none
  status := .active
  deletedAt := none

def requirement : WorkHourRequirement where
  id := 20
  year := 2026
  baseHours := .finite 10
  feePerMissingHour := .finite 15
  deadline := ((9860 : Int) : WithTop Int)

def obligation (id unitId : Uuid) : UnitWorkHourObligation where
  id := id
  unitId := unitId
  year := 2026
  additionalHours := .finite 4
  deletedAt := none

/-- Alice holds these units. Of units 10 and 11, each costs four hours. -/
def dbWithLeases (leases : List Lease) : Db where
  users := [alice]
  leases := leases
  requirements := [requirement]
  obligations := [obligation 30 10, obligation 31 11]
  adjustments := []
  workLogs := []

theorem valid_dbWithLeases {leases : List Lease} (hkey : (leases.map Lease.id).Nodup)
    (htenant : ∀ lease ∈ leases, lease.tenantUserId = alice.id)
    (hdates : ∀ lease ∈ leases, lease.endDate = none)
    (hunits : leases.Pairwise fun one other => one.unitId ≠ other.unitId) :
    (dbWithLeases leases).Valid where
  users_pkey := List.nodup_singleton _
  leases_pkey := hkey
  leases_tenant lease hlease := by simp [dbWithLeases, htenant lease hlease]
  leases_dates lease hlease := by simp [Lease.lastDate, hdates lease hlease]
  leases_no_overlap := hunits.imp fun hne _ _ heq => absurd heq hne
  requirements_pkey := List.nodup_singleton _
  requirements_year := List.nodup_singleton _
  requirements_hours := by
    intro row hrow
    rw [List.mem_singleton.mp hrow]
    norm_num [requirement, Numeric.HasType]
  requirements_fee := by
    intro row hrow
    rw [List.mem_singleton.mp hrow]
    norm_num [requirement, Numeric.HasType]
  obligations_pkey := by simp [dbWithLeases, obligation]
  obligations_key := by simp [dbWithLeases, obligation]
  obligations_hours := by
    intro row hrow
    have hhours : row.additionalHours = .finite 4 := by
      simp only [dbWithLeases, List.mem_cons, List.not_mem_nil, or_false] at hrow
      rcases hrow with rfl | rfl <;> rfl
    rw [hhours]
    exact ⟨by norm_num [Numeric.HasType], by decide⟩
  adjustments_pkey := List.nodup_nil
  adjustments_user := nofun
  adjustments_key := List.nodup_nil
  adjustments_hours := nofun
  workLogs_pkey := List.nodup_nil
  workLogs_user := nofun
  workLogs_hours := nofun
  workLogs_year := nofun

def twoLeases : Db := dbWithLeases [leaseOf 40 10, leaseOf 41 11]

theorem valid_twoLeases : twoLeases.Valid :=
  valid_dbWithLeases (by decide) (by simp [leaseOf]) (by simp [leaseOf]) (by decide)

theorem valid_oneLease : (dbWithLeases [leaseOf 40 10]).Valid :=
  valid_dbWithLeases (by decide) (by simp [leaseOf]) (by simp [leaseOf]) (by decide)

/-- With one unit, Alice owes what the view says. -/
theorem hasBalance_oneLease : (dbWithLeases [leaseOf 40 10]).HasBalance alice requirement :=
  (hasBalance_iff valid_oneLease (List.mem_singleton_self _) rfl rfl
    (List.mem_singleton_self _)).mpr (by decide)

end Sample

/-- A member who holds two units has two rows in the view. -/
theorem not_forall_hasBalance :
    ¬∀ (db : Db) (u : User) (r : WorkHourRequirement), db.Valid → u ∈ db.users →
      u.deletedAt = none → u.isActive = true → r ∈ db.requirements → db.HasBalance u r := by
  intro hall
  obtain ⟨row, hrows, -⟩ := hall Sample.twoLeases Auth.Sample.alice Sample.requirement
    Sample.valid_twoLeases (List.mem_singleton_self _) rfl rfl (List.mem_singleton_self _)
  have hlength := length_balanceRows Sample.valid_twoLeases (List.mem_singleton_self _) rfl rfl
    (List.mem_singleton_self Sample.requirement)
  rw [hrows, List.length_singleton] at hlength
  exact absurd hlength (by decide)

end Skolva.WorkHours
