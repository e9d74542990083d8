import Skolva.Auth.Store
import Skolva.Sql.Numeric
import Skolva.Sql.Query
import Mathlib.Data.Int.ConditionallyCompleteOrder
import Mathlib.Order.ConditionallyCompleteLattice.Basic

/-! # The compulsory working hours of `schema.sql`

The tables that `view_work_hour_balance` reads, with their constraints, and the view.
-/

namespace Skolva.WorkHours

open Auth (User)
open Sql

/-! ## Tables -/

/-- A value of type `date`, in days. -/
abbrev Date := WithBot (WithTop Int)

inductive LeaseStatus where
  | planned
  | active
  | ended
  deriving DecidableEq

/-- A row of `leases`. -/
structure Lease where
  id : Uuid
  unitId : Uuid
  tenantUserId : Uuid
  startDate : Date
  endDate : Option Date
  status : LeaseStatus
  deletedAt : Option Nat
  deriving DecidableEq

/-- A row of `work_hour_requirements`. -/
structure WorkHourRequirement where
  id : Uuid
  year : Int
  baseHours : Numeric
  feePerMissingHour : Numeric
  deadline : Date
  deriving DecidableEq

/-- A row of `unit_work_hour_obligations`. -/
structure UnitWorkHourObligation where
  id : Uuid
  unitId : Uuid
  year : Int
  additionalHours : Numeric
  deletedAt : Option Nat
  deriving DecidableEq

/-- A row of `user_work_hour_adjustments`. -/
structure UserWorkHourAdjustment where
  id : Uuid
  userId : Uuid
  year : Int
  adjustedHours : Numeric
  deletedAt : Option Nat
  deriving DecidableEq

/-- A row of `work_logs`. -/
structure WorkLog where
  id : Uuid
  userId : Uuid
  hoursSpent : Numeric
  appliedToYear : Int
  isVerified : Bool
  deletedAt : Option Nat
  deriving DecidableEq

structure Db where
  users : List User
  leases : List Lease
  requirements : List WorkHourRequirement
  obligations : List UnitWorkHourObligation
  adjustments : List UserWorkHourAdjustment
  workLogs : List WorkLog

/-! ## Constraints -/

/-- The upper bound of the range in `ex_leases_no_overlap`. -/
def Lease.lastDate (lease : Lease) : Date := lease.endDate.getD ⊤

/-- The ranges of the leases overlap, both bounds included. -/
def Lease.Overlaps (one other : Lease) : Prop :=
  one.startDate ≤ other.lastDate ∧ other.startDate ≤ one.lastDate

/-- The keys, checks and foreign keys to `users`. -/
structure Db.Valid (db : Db) : Prop where
  users_pkey : (db.users.map User.id).Nodup
  leases_pkey : (db.leases.map Lease.id).Nodup
  leases_tenant : ∀ lease ∈ db.leases, lease.tenantUserId ∈ db.users.map User.id
  leases_dates : ∀ lease ∈ db.leases, lease.startDate ≤ lease.lastDate
  leases_no_overlap : db.leases.Pairwise fun one other => one.deletedAt = none →
    other.deletedAt = none → one.unitId = other.unitId → ¬one.Overlaps other
  requirements_pkey : (db.requirements.map WorkHourRequirement.id).Nodup
  requirements_year : (db.requirements.map WorkHourRequirement.year).Nodup
  requirements_hours : ∀ row ∈ db.requirements, row.baseHours.HasType 5 2
  requirements_fee : ∀ row ∈ db.requirements, row.feePerMissingHour.HasType 8 2
  obligations_pkey : (db.obligations.map UnitWorkHourObligation.id).Nodup
  obligations_key : (db.obligations.map fun row => (row.unitId, row.year)).Nodup
  obligations_hours : ∀ row ∈ db.obligations, row.additionalHours.HasType 5 2 ∧
    0 < row.additionalHours
  adjustments_pkey : (db.adjustments.map UserWorkHourAdjustment.id).Nodup
  adjustments_user : ∀ row ∈ db.adjustments, row.userId ∈ db.users.map User.id
  adjustments_key : (db.adjustments.map fun row => (row.userId, row.year)).Nodup
  adjustments_hours : ∀ row ∈ db.adjustments, row.adjustedHours.HasType 5 2
  workLogs_pkey : (db.workLogs.map WorkLog.id).Nodup
  workLogs_user : ∀ row ∈ db.workLogs, row.userId ∈ db.users.map User.id
  workLogs_hours : ∀ row ∈ db.workLogs, row.hoursSpent.HasType 5 2 ∧ 0 < row.hoursSpent ∧
    row.hoursSpent ≤ .finite 24
  workLogs_year : ∀ row ∈ db.workLogs, 2000 ≤ row.appliedToYear ∧ row.appliedToYear ≤ 2100

/-! ## The view -/

/-- A row of `view_work_hour_balance`. -/
structure BalanceRow where
  userId : Uuid
  name : String
  year : Int
  baseHours : Numeric
  unitHours : Numeric
  adjustment : Numeric
  totalRequired : Numeric
  hoursWorked : Numeric
  hoursMissing : Numeric
  replacementFee : Numeric
  deadline : Date
  feePerMissingHour : Numeric

/-- A row of the subquery `worked`. -/
abbrev Worked := (Uuid × Int) × Numeric

abbrev Base := User × WorkHourRequirement
abbrev WithLease := Base × Option Lease
abbrev WithObligation := WithLease × Option UnitWorkHourObligation
abbrev WithAdjustment := WithObligation × Option UserWorkHourAdjustment
abbrev WithWorked := WithAdjustment × Option Worked

/-- `l.tenant_user_id = u.id AND l.deleted_at IS NULL AND l.status = 'active'`. -/
def leaseOn (source : Base) (l : Lease) : Bool :=
  l.tenantUserId = source.1.id ∧ l.deletedAt = none ∧ l.status = .active

/-- `uwo.unit_id = l.unit_id AND uwo.year = r.year AND uwo.deleted_at IS NULL`. -/
def obligationOn (source : WithLease) (uwo : UnitWorkHourObligation) : Bool :=
  source.2.map Lease.unitId = some uwo.unitId ∧ uwo.year = source.1.2.year ∧ uwo.deletedAt = none

/-- `adj.user_id = u.id AND adj.year = r.year AND adj.deleted_at IS NULL`. -/
def adjustmentOn (source : WithObligation) (adj : UserWorkHourAdjustment) : Bool :=
  adj.userId = source.1.1.1.id ∧ adj.year = source.1.1.2.year ∧ adj.deletedAt = none

/-- `worked.user_id = u.id AND worked.applied_to_year = r.year`. -/
def workedOn (source : WithAdjustment) (worked : Worked) : Bool :=
  worked.1 = (source.1.1.1.1.id, source.1.1.1.2.year)

/-- The selected columns. -/
def balanceRow : WithWorked → BalanceRow
  | (((((u, r), _), uwo), adj), worked) =>
      let unitHours := (uwo.map UnitWorkHourObligation.additionalHours).getD 0
      let adjustment := (adj.map UserWorkHourAdjustment.adjustedHours).getD 0
      let totalRequired := r.baseHours + unitHours + adjustment
      let hoursWorked := (worked.map Prod.snd).getD 0
      let hoursMissing := max (totalRequired - hoursWorked) 0
      { userId := u.id
        name := u.lastName ++ ", " ++ u.firstName
        year := r.year
        baseHours := r.baseHours
        unitHours := unitHours
        adjustment := adjustment
        totalRequired := totalRequired
        hoursWorked := hoursWorked
        hoursMissing := hoursMissing
        replacementFee := hoursMissing * r.feePerMissingHour
        deadline := r.deadline
        feePerMissingHour := r.feePerMissingHour }

namespace Db

variable (db : Db)

/-- The subquery `worked`. -/
def worked : List Worked :=
  groupSum (fun log => (log.userId, log.appliedToYear)) WorkLog.hoursSpent
    (db.workLogs.filter fun log => log.isVerified = true ∧ log.deletedAt = none)

def viewWorkHourBalance : List BalanceRow :=
  let withLeases := leftJoin leaseOn (crossJoin db.users db.requirements) db.leases
  let withObligations := leftJoin obligationOn withLeases db.obligations
  let withAdjustments := leftJoin adjustmentOn withObligations db.adjustments
  let withWorked := leftJoin workedOn withAdjustments db.worked
  (withWorked.filter fun row =>
    row.1.1.1.1.1.deletedAt = none ∧ row.1.1.1.1.1.isActive = true).map balanceRow

end Db

end Skolva.WorkHours
