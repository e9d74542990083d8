import Mathlib.Algebra.Group.Nat.Defs
import Mathlib.Data.List.Basic

/-! # Identifiers and instants shared by the schema and the services

An instant is a natural number of microseconds since the Unix epoch. That is
the resolution of `timestamptz`, so an instant read from the clock is stored as
it was read.
-/

namespace Skolva

/-- A value of PostgreSQL's `uuid` and of `uuid.UUID`. -/
abbrev Uuid := BitVec 128

instance : LawfulBEq Uuid := inferInstance

/-- What is asked of an optional identifier is decided there, and not by trying them all. -/
instance (id : Option Uuid) (p : Uuid → Prop) [DecidablePred p] : Decidable (∀ one ∈ id, p one) :=
  Option.decidableForallMem id

/-- `uuid.Nil`, the identifier that stands for the absence of an actor. -/
def Uuid.nil : Uuid := 0

namespace Time

def second : Nat := 1000000

def minute : Nat := 60 * second

def hour : Nat := 60 * minute

/-- The start of the second an instant lies in. -/
def truncate (instant : Nat) : Nat := instant / second * second

theorem truncate_le (instant : Nat) : truncate instant ≤ instant :=
  Nat.div_mul_le_self instant second

theorem truncate_le_truncate {earlier later : Nat} (hle : earlier ≤ later) :
    truncate earlier ≤ truncate later :=
  Nat.mul_le_mul_right second (Nat.div_le_div_right hle)

theorem truncate_lt_truncate {earlier later : Nat} (hsecond : earlier + second ≤ later) :
    truncate earlier < truncate later := by
  have hstep : truncate (earlier + second) = truncate earlier + second := by
    unfold truncate
    rw [Nat.add_div_right _ (by decide), Nat.succ_mul]
  have hle := truncate_le_truncate hsecond
  have hpositive : 0 < second := by decide
  omega

theorem le_truncate_add {instant duration : Nat} (hlong : second ≤ duration) :
    instant ≤ truncate (instant + duration) := by
  have hrest := Nat.mod_lt (instant + duration) (show 0 < second by decide)
  have hsplit := Nat.div_add_mod' (instant + duration) second
  unfold truncate
  omega

end Time

end Skolva
