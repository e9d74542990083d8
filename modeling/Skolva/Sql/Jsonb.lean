import Mathlib.Algebra.Order.Ring.Rat
import Mathlib.Data.String.Basic
import Skolva.Sql.SortedMap

/-! # The type `jsonb` of PostgreSQL

Documents as they are stored, when two of them are equal, and the operators and functions on
objects.
-/

namespace Skolva.Sql

/-- A number keeps its trailing zeros: 1.50 has the digits 150, with two behind the point. -/
structure JsonNumber where
  digits : Int
  scale : Nat

def JsonNumber.value (number : JsonNumber) : Rat := number.digits / 10 ^ number.scale

inductive Jsonb where
  | null
  | bool (value : Bool)
  | number (number : JsonNumber)
  | string (text : String)
  | array (elements : List Jsonb)
  /-- The members are in the order of their keys. -/
  | object (members : List (String × Jsonb))

/-! ## Equality -/

mutual

/-- The operator `=`. Numbers are equal by their values, and containers part by part. -/
def Jsonb.same : Jsonb → Jsonb → Bool
  | .null, .null => true
  | .bool one, .bool other => one = other
  | .number one, .number other => one.value = other.value
  | .string one, .string other => one = other
  | .array ones, .array others => sameElements ones others
  | .object ones, .object others => sameMembers ones others
  | _, _ => false
termination_by structural document => document

def sameElements : List Jsonb → List Jsonb → Bool
  | [], [] => true
  | one :: ones, other :: others => one.same other && sameElements ones others
  | _, _ => false
termination_by structural elements => elements

def sameMembers : List (String × Jsonb) → List (String × Jsonb) → Bool
  | [], [] => true
  | one :: ones, other :: others => sameMember one other && sameMembers ones others
  | _, _ => false
termination_by structural members => members

def sameMember : String × Jsonb → String × Jsonb → Bool
  | (key, one), (key', other) => key = key' && one.same other
termination_by structural member => member

end

mutual

theorem Jsonb.same_refl : ∀ document : Jsonb, document.same document = true
  | .null => rfl
  | .bool _ | .number _ | .string _ => by simp [Jsonb.same]
  | .array elements => by simp [Jsonb.same, sameElements_refl elements]
  | .object members => by simp [Jsonb.same, sameMembers_refl members]

theorem sameElements_refl : ∀ elements : List Jsonb, sameElements elements elements = true
  | [] => rfl
  | head :: rest => by simp [sameElements, head.same_refl, sameElements_refl rest]

theorem sameMembers_refl : ∀ members : List (String × Jsonb), sameMembers members members = true
  | [] => rfl
  | head :: rest => by simp [sameMembers, sameMember_refl head, sameMembers_refl rest]

theorem sameMember_refl : ∀ member : String × Jsonb, sameMember member member = true
  | (_, document) => by simp [sameMember, document.same_refl]

end

mutual

theorem Jsonb.same_comm : ∀ one other : Jsonb, one.same other = other.same one
  | .null, other => by cases other <;> rfl
  | .bool _, other => by cases other <;> simp [Jsonb.same, eq_comm]
  | .number _, other => by cases other <;> simp [Jsonb.same, eq_comm]
  | .string _, other => by cases other <;> simp [Jsonb.same, eq_comm]
  | .array ones, other => by
      cases other with
      | array others => exact sameElements_comm ones others
      | _ => rfl
  | .object ones, other => by
      cases other with
      | object others => exact sameMembers_comm ones others
      | _ => rfl
termination_by structural one => one

theorem sameElements_comm : ∀ ones others : List Jsonb,
    sameElements ones others = sameElements others ones
  | [], [] | [], _ :: _ | _ :: _, [] => rfl
  | one :: ones, other :: others => by
      rw [sameElements, sameElements, one.same_comm other, sameElements_comm ones others]
termination_by structural ones => ones

theorem sameMembers_comm : ∀ ones others : List (String × Jsonb),
    sameMembers ones others = sameMembers others ones
  | [], [] | [], _ :: _ | _ :: _, [] => rfl
  | one :: ones, other :: others => by
      rw [sameMembers, sameMembers, sameMember_comm one other, sameMembers_comm ones others]
termination_by structural ones => ones

theorem sameMember_comm : ∀ one other : String × Jsonb, sameMember one other = sameMember other one
  | (key, one), (key', other) => by
      rw [sameMember, sameMember, one.same_comm other, decide_eq_decide.mpr eq_comm]
termination_by structural one => one

end

/-- Objects are equal member by member. -/
theorem sameMembers_iff {ones others : List (String × Jsonb)} :
    sameMembers ones others = true ↔ List.Forall₂ (fun member member' =>
      member.1 = member'.1 ∧ member.2.same member'.2 = true) ones others := by
  induction ones generalizing others with
  | nil => cases others <;> simp [sameMembers]
  | cons one ones ih =>
      cases others with
      | nil => simp [sameMembers]
      | cons other others =>
          obtain ⟨key, one⟩ := one
          obtain ⟨key', other⟩ := other
          simp [sameMembers, sameMember, ih]

/-- `IS DISTINCT FROM`, with `none` for `NULL`. -/
def isDistinctFrom : Option Jsonb → Option Jsonb → Bool
  | none, none => false
  | some one, some other => !one.same other
  | _, _ => true

theorem isDistinctFrom_self (document : Option Jsonb) : isDistinctFrom document document = false := by
  cases document with
  | none => rfl
  | some document => simp [isDistinctFrom, document.same_refl]

theorem isDistinctFrom_comm (one other : Option Jsonb) :
    isDistinctFrom one other = isDistinctFrom other one := by
  cases one with
  | none => cases other <;> rfl
  | some one =>
      cases other with
      | none => rfl
      | some other => rw [isDistinctFrom, isDistinctFrom, one.same_comm other]

theorem isDistinctFrom_eq_false_iff {one other : Option Jsonb} :
    isDistinctFrom one other = false ↔
      Option.Rel (fun one other => one.same other = true) one other := by
  cases one <;> cases other <;> simp [isDistinctFrom]

/-! ## Objects -/

/-- Shorter keys are stored first, and those of one length by their bytes. In UTF-8 these are
in the order of the characters. -/
def keyBefore (one other : String) : Prop :=
  one.utf8ByteSize < other.utf8ByteSize ∨ one.utf8ByteSize = other.utf8ByteSize ∧ one < other

instance : DecidableRel keyBefore := fun one other =>
  inferInstanceAs (Decidable (one.utf8ByteSize < other.utf8ByteSize ∨ _))

instance : IsStrictTotalOrder String keyBefore where
  trichotomous one other hone hother := by
    simp only [keyBefore, not_or, not_and, Nat.not_lt] at hone hother
    have hsize := le_antisymm hother.1 hone.1
    exact le_antisymm (not_lt.mp (hother.2 hsize.symm)) (not_lt.mp (hone.2 hsize))
  irrefl one := by simp [keyBefore]
  trans one other next := by
    rintro (hone | ⟨hone, hbefore⟩) (hother | ⟨hother, hbefore'⟩)
    · exact .inl (hone.trans hother)
    · exact .inl (hother ▸ hone)
    · exact .inl (hone ▸ hother)
    · exact .inr ⟨hone.trans hother, hbefore.trans hbefore'⟩

abbrev JsonObject := SortedMap keyBefore Jsonb

def Jsonb.ofObject (object : JsonObject) : Jsonb := .object object.entries

/-- The operator `->` with a key. -/
def field : Option Jsonb → String → Option Jsonb
  | some (.object members), key => members.lookup key
  | _, _ => none

inductive JsonbError where
  | keysOfScalar
  | keysOfArray

def jsonbObjectKeys : Jsonb → Except JsonbError (List String)
  | .object members => .ok (members.map Prod.fst)
  | .array _ => .error .keysOfArray
  | _ => .error .keysOfScalar

/-- An absent value is stored as `null`. -/
def jsonbBuildObject (fields : List (String × Option Jsonb)) : Jsonb :=
  .ofObject (.ofEntries (fields.map fun entry => (entry.1, entry.2.getD .null)))

theorem field_jsonbBuildObject (fields : List (String × Option Jsonb)) (key : String) :
    field (some (jsonbBuildObject fields)) key =
      (fields.reverse.lookup key).map fun value => value.getD .null := by
  refine (SortedMap.lookup_ofEntries key).trans ?_
  rw [← List.map_reverse]
  exact SortedMap.lookup_map_snd (fun value => value.getD .null) fields.reverse key

/-- Without rows the aggregate is `NULL`. -/
def jsonbObjectAgg : List (String × Jsonb) → Option Jsonb
  | [] => none
  | row :: rows => some (.ofObject (.ofEntries (row :: rows)))

theorem jsonbObjectAgg_getD (rows : List (String × Jsonb)) :
    (jsonbObjectAgg rows).getD (.ofObject .empty) = .ofObject (.ofEntries rows) := by
  cases rows <;> rfl

/-- Objects are equal if none of their look-ups differ. -/
theorem same_ofObject_iff {one other : JsonObject} :
    (Jsonb.ofObject one).same (.ofObject other) = true ↔
      ∀ key, isDistinctFrom (one.lookup key) (other.lookup key) = false := by
  simp only [isDistinctFrom_eq_false_iff]
  rw [← SortedMap.forall₂_entries_iff (r := fun one other => Jsonb.same one other = true)]
  exact sameMembers_iff

end Skolva.Sql
